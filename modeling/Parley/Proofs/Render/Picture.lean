import Parley.Proofs.Text.Case
import Parley.Render.Picture

/-!
# What an artifact is shown as

Whatever is asked for, something is shown, and what it is depends on three things one after the other:
the tag of the artifact, its content, and the plotter. The tag comes first, and only for a chart are the
others looked at; the content comes before the plotter, so a chart that cannot be made is a failure
whether or not there is something to draw it with (`Parley.Picture.IsFor`).

Of the tag only the word matters that it spells (`Parley.ArtifactKind.ofTag_alike`): small and capital
letters are the same, and blanks around it make no difference. Where a tag is no word that is known it
is repeated in what is shown, as it came, and that is all that can be told of its spelling
(`Parley.Picture.degrades`).
-/

namespace Parley

open Text (Alike Spells)

/-! ### Kinds -/

namespace ArtifactKind

variable {s t tag : String}

/-- Of a tag the capital letters matter, without the blanks around. -/
theorem ofTag_congr (h : Text.upper (Text.trim s) = Text.upper (Text.trim t)) :
    ofTag s = ofTag t := by
  rw [ofTag, ofTag, h]

/-- **Tags that spell the same word are of the same kind.** -/
theorem ofTag_alike (h : Alike s t) : ofTag s = ofTag t := ofTag_congr h.upper_trim

/-- The normal form of a tag. -/
theorem tag_ofTag (tag : String) : (ofTag tag).tag = Text.upper (Text.trim tag) := by
  rw [ofTag]
  generalize Text.upper (Text.trim tag) = u
  split <;> rfl

/-- **The tag of a kind in its normal form is of that kind.** -/
theorem ofTag_tag_ofTag (tag : String) : ofTag (ofTag tag).tag = ofTag tag := by
  refine ofTag_congr ?_
  rw [tag_ofTag, Text.trim_upper, Text.trim_trim, Text.upper_upper]

theorem ofTag_eq_iff {k : ArtifactKind} (hk : ofTag k.tag = k) :
    ofTag tag = k ↔ Text.upper (Text.trim tag) = k.tag := by
  refine ⟨fun h => by rw [← tag_ofTag, h], fun h => ?_⟩
  rw [← ofTag_tag_ofTag, tag_ofTag, h, hk]

theorem ofTag_eq_chart_iff : ofTag tag = .chart ↔ Spells "chart" tag := by
  rw [Text.spells_iff_upper (by decide) (by decide)]
  exact ofTag_eq_iff (by decide)

theorem ofTag_eq_table_iff : ofTag tag = .table ↔ Spells "table" tag := by
  rw [Text.spells_iff_upper (by decide) (by decide)]
  exact ofTag_eq_iff (by decide)

end ArtifactKind

/-! ### Pictures -/

namespace Picture

variable {plotter? : Option Plotter} {a : Artifact}

/-- The plotter does not draw a chart: it refuses, or breaks down. -/
def Fails (p : Plotter) (c : Chart) : Prop := (∃ f, p.draw c = .refused f) ∨ p.draw c = .crashed

/-- How a picture comes about. -/
inductive ComesOf (plotter? : Option Plotter) (a : Artifact) : Picture → Prop
  | drawn {c : Chart} {p : Plotter} {visual : String} (htag : Spells "chart" a.tag)
      (hc : Chart.ofContent a.content = .ok c) (hp : plotter? = some p)
      (hdraw : p.draw c = .drawn visual) : ComesOf plotter? a (.chart c p.name visual)
  | invalid {f : Failure} {m : String} (htag : Spells "chart" a.tag)
      (hc : Chart.ofContent a.content = .error f) :
      ComesOf plotter? a (.placeholder .renderFailed m)
  | undrawn {c : Chart} {p : Plotter} {m : String} (htag : Spells "chart" a.tag)
      (hc : Chart.ofContent a.content = .ok c) (hp : plotter? = some p) (hfails : Fails p c) :
      ComesOf plotter? a (.placeholder .renderFailed m)
  | noPlotter {c : Chart} {m : String} (htag : Spells "chart" a.tag)
      (hc : Chart.ofContent a.content = .ok c) (hp : plotter? = none) :
      ComesOf plotter? a (.placeholder .noPlotter m)
  | table (htag : Spells "table" a.tag) : ComesOf plotter? a (.table (.ofContent a.content))
  | other {m : String} (hchart : ¬ Spells "chart" a.tag) (htable : ¬ Spells "table" a.tag) :
      ComesOf plotter? a (.placeholder .notImplemented m)

/-- The content of a chart is looked at before the plotter. -/
theorem comesOf_ofChart (htag : Spells "chart" a.tag) :
    ComesOf plotter? a (ofChart plotter? a).1 := by
  unfold ofChart
  split
  · rename_i f hc
    exact .invalid htag hc
  · rename_i c hc
    split
    · exact .noPlotter htag hc rfl
    · rename_i p
      split
      · rename_i visual hdraw
        exact .drawn htag hc rfl hdraw
      · rename_i f hdraw
        exact .undrawn htag hc rfl (.inl ⟨f, hdraw⟩)
      · rename_i hdraw
        exact .undrawn htag hc rfl (.inr hdraw)

/-- **Something is shown of every artifact.** -/
theorem comesOf_ofArtifact (plotter? : Option Plotter) (a : Artifact) :
    ComesOf plotter? a (ofArtifact plotter? a).1 := by
  have hchart : a.kind = .chart ↔ Spells "chart" a.tag := ArtifactKind.ofTag_eq_chart_iff
  have htable : a.kind = .table ↔ Spells "table" a.tag := ArtifactKind.ofTag_eq_table_iff
  unfold ofArtifact
  cases hkind : a.kind with
  | chart => exact comesOf_ofChart (hchart.mp hkind)
  | table => exact .table (htable.mp hkind)
  | report | document | other =>
    rw [hkind] at hchart htable
    exact .other (fun h => nomatch hchart.mpr h) fun h => nomatch htable.mpr h

/-- **A picture is the one for an artifact**, given what there is to draw charts with. -/
structure IsFor (plotter? : Option Plotter) (a : Artifact) (picture : Picture) : Prop where
  chart : ∀ c name visual, picture = .chart c name visual ↔ Spells "chart" a.tag ∧
    Chart.ofContent a.content = .ok c ∧
      ∃ p, plotter? = some p ∧ p.name = name ∧ p.draw c = .drawn visual
  table : ∀ t, picture = .table t ↔ Spells "table" a.tag ∧ t = .ofContent a.content
  renderFailed : (∃ m, picture = .placeholder .renderFailed m) ↔ Spells "chart" a.tag ∧
    ((∃ f, Chart.ofContent a.content = .error f) ∨
      ∃ c p, Chart.ofContent a.content = .ok c ∧ plotter? = some p ∧ Fails p c)
  noPlotter : (∃ m, picture = .placeholder .noPlotter m) ↔ Spells "chart" a.tag ∧
    (∃ c, Chart.ofContent a.content = .ok c) ∧ plotter? = none
  notImplemented : (∃ m, picture = .placeholder .notImplemented m) ↔
    ¬ Spells "chart" a.tag ∧ ¬ Spells "table" a.tag

/-- A tag spells one word at most. -/
theorem not_spells_table {tag : String} (h : Spells "chart" tag) : ¬ Spells "table" tag := by
  rw [← ArtifactKind.ofTag_eq_chart_iff] at h
  rw [← ArtifactKind.ofTag_eq_table_iff, h]
  exact nofun

/-- **No two things that lead to a picture go together**, so what it is tells how it came about. -/
theorem ComesOf.isFor {picture : Picture} (h : ComesOf plotter? a picture) :
    IsFor plotter? a picture := by
  have hword : Spells "chart" a.tag → ¬ Spells "table" a.tag := not_spells_table
  cases h <;> constructor <;> grind [Fails]

/-! ### What the spelling of a tag matters -/

/-- The text in place of an artifact whose tag is not known. -/
def unknownText (tag : String) : String := "Renderer for " ++ tag ++ " not implemented"

/-- Of two artifacts with the same content the charts are the same. -/
theorem ofChart_congr {b : Artifact} (h : a.content = b.content) :
    (ofChart plotter? a).1 = (ofChart plotter? b).1 := by
  unfold ofChart
  rw [h]
  split
  · rfl
  · split
    · rfl
    · split <;> rfl

/-- **Two artifacts look alike**, but for the tag where it is repeated. -/
structure LookAlike (plotter? : Option Plotter) (a b : Artifact) : Prop where
  kind : a.kind = b.kind
  known : (∀ word, a.kind ≠ .other word) → (ofArtifact plotter? a).1 = (ofArtifact plotter? b).1
  unknown : ∀ word, a.kind = .other word →
    (ofArtifact plotter? a).1 = .placeholder .notImplemented (unknownText a.tag) ∧
    (ofArtifact plotter? b).1 = .placeholder .notImplemented (unknownText b.tag)

theorem lookAlike {b : Artifact} (htag : Alike a.tag b.tag) (hcontent : a.content = b.content) :
    LookAlike plotter? a b := by
  have hkind : a.kind = b.kind := ArtifactKind.ofTag_alike htag
  refine ⟨hkind, fun hknown => ?_, fun word hword => ?_⟩
  · rw [ofArtifact, ofArtifact, ← hkind]
    cases h : a.kind with
    | chart => exact ofChart_congr hcontent
    | table => rw [hcontent]
    | report | document => rfl
    | other word => exact absurd h (hknown word)
  · rw [ofArtifact, ofArtifact, ← hkind, hword]
    exact ⟨rfl, rfl⟩

/-- **Whatever is asked for, something is shown.** For every artifact and everything there may be to
draw charts with:

* A chart is shown exactly if the tag spells the word, whether in small or capital letters and with
  whatever blanks around it, a chart can be made of the content, and the plotter draws that chart; a
  table exactly if the tag spells that word, whatever the content is. A chart that cannot be made, or
  that the plotter refuses or breaks down on, is a failure, and a chart that could be drawn if there were
  a plotter says so. Every other tag is not known.
* Another artifact with the same content whose tag differs only in small and capital letters and in the
  blanks around looks alike; where the tag is not known, each of the two is shown its own.
* The tag of a kind in its normal form is of the same kind. -/
theorem degrades (plotter? : Option Plotter) (a : Artifact) :
    IsFor plotter? a (ofArtifact plotter? a).1 ∧
      (∀ b : Artifact, Alike a.tag b.tag → a.content = b.content → LookAlike plotter? a b) ∧
      ArtifactKind.ofTag a.kind.tag = a.kind :=
  ⟨(comesOf_ofArtifact plotter? a).isFor, fun _ htag hcontent => lookAlike htag hcontent,
    ArtifactKind.ofTag_tag_ofTag a.tag⟩

/-- A plotter breaks down on a chart whose tag is in small letters with blanks around, and so it does on
the same chart with a tag in capitals. -/
theorem degrades_of_crash :
    let p : Plotter := ⟨"crashing", fun _ => .crashed⟩
    let content : Json.Value := .object [("series", .array [.null])]
    let a : Artifact := ⟨"a", " chart\n", "", content, none, default⟩
    let b : Artifact := ⟨"b", "CHART", "", content, none, default⟩
    (∃ m, (ofArtifact (some p) a).1 = .placeholder .renderFailed m) ∧ Alike a.tag b.tag ∧
      (ofArtifact (some p) a).1 = (ofArtifact (some p) b).1 := by
  intro p content a b
  have ha : Spells "chart" a.tag :=
    ⟨[' '], "chart".toList, ['\n'], by decide, List.forall_mem_singleton.mpr (by decide),
      List.forall_mem_singleton.mpr (by decide), by decide⟩
  have halike : Alike a.tag b.tag :=
    ⟨"chart", ha, [], "CHART".toList, [], by decide, List.forall_mem_nil _,
      List.forall_mem_nil _, by decide⟩
  obtain ⟨hfor, hlook, -⟩ := degrades (some p) a
  have hkind : a.kind = .chart := ArtifactKind.ofTag_eq_chart_iff.mpr ha
  refine ⟨hfor.renderFailed.mpr ⟨ha, .inr ⟨_, p, rfl, rfl, .inr rfl⟩⟩, halike,
    (hlook b halike rfl).known fun word h => ?_⟩
  rw [hkind] at h
  cases h

end Picture

end Parley
