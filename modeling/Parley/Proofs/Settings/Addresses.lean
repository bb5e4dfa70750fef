import Parley.Http.Server
import Parley.Proofs.Settings.Variables

/-!
# Which addresses the settings name

An address is cleaned twice: when the settings are made of the environment, and again when a server
is made of the settings. Each time blanks are removed first and slashes at the end after that, so
never a blank is left in front nor a slash at the end (`Parley.Settings.IsStripped`). But a blank in
front of those slashes comes to stand at the end, and is only removed by the second cleaning. Texts
of that kind (`Parley.Settings.HidesBlank`) are the only ones for which the server differs from the
settings, and together with those of slashes alone, of which nothing is left, they are the only ones
that make for an address that is not in normal form.
-/

namespace Parley.Settings

open Text

variable {env : Environment} {name standard text platformDir : String} {url : String}
  {s : Settings} {t : List Char}

/-! ### Normal forms -/

/-- There is no blank in front of an address, and no slash at its end. -/
structure IsStripped (url : String) : Prop where
  head : ∀ c, url.toList.head? = some c → isBlank c = false
  last : ∀ c, url.toList.getLast? = some c → c ≠ '/'

/-- A blank is at the end of an address. -/
def EndsBlank (url : String) : Prop :=
  ∃ c, url.toList.getLast? = some c ∧ isBlank c = true

/-- **An address is in normal form**: there is something in it, no blanks are around it and no slash
is at its end. -/
structure IsNormal (url : String) : Prop extends IsStripped url where
  ne_empty : url ≠ ""
  not_endsBlank : ¬ EndsBlank url

/-- A text of slashes. -/
def IsSlashes (text : String) : Prop := ∀ c ∈ text.toList, c = '/'

/-- **A text has slashes at its end, and a blank right in front of them.** -/
def HidesBlank (text : String) : Prop :=
  ∃ front b slashes, text.toList = front ++ b :: slashes ∧ isBlank b = true ∧ slashes ≠ [] ∧
    ∀ c ∈ slashes, c = '/'

/-- The standard addresses are in normal form. -/
theorem isNormal_of_standard : IsNormal "http://localhost:3000/api/v1" ∧
    IsNormal "http://localhost:8008/api/v1" := by
  constructor <;> refine ⟨⟨?_, ?_⟩, ?_, ?_⟩ <;> simp [EndsBlank] <;> decide

/-! ### What is cleaned -/

theorem toList_trimUrl (v : String) :
    (trimUrl v).toList = (trimChars v.toList).rdropWhile (· = '/') := by
  rw [trimUrl, String.toList_ofList]
  rfl

theorem trimUrl_trim (v : String) : trimUrl (trim v) = trimUrl v := by
  rw [← String.toList_inj, toList_trimUrl, toList_trimUrl, trim, String.toList_ofList,
    trimChars_trimChars]

/-- What is cleaned has no blank in front, and no slash at its end. -/
theorem isStripped_trimUrl (v : String) : IsStripped (trimUrl v) := by
  rw [trimUrl]
  constructor
  all_goals rw [String.toList_ofList]; intro c hc
  · obtain ⟨rest, hrest⟩ := List.rdropWhile_prefix (· = '/') (trimChars v.toList)
    refine isBlank_of_head?_trimChars (s := v.toList) ?_
    rw [← hrest, List.head?_append]
    exact Option.or_eq_some_iff.mpr (Or.inl hc)
  · have hne : (trimChars v.toList).rdropWhile (· = '/') ≠ [] :=
      List.ne_nil_of_mem (List.mem_of_getLast? hc)
    obtain rfl := Option.some.inj ((List.getLast?_eq_some_getLast hne).symm.trans hc)
    simpa using List.rdropWhile_last_not (· = '/') (trimChars v.toList) hne

/-- **A stripped address is cleaned of what is blank at its end**, and if there is nothing it is
left as it is. -/
theorem trimUrl_eq_self_iff (h : IsStripped url) : trimUrl url = url ↔ ¬ EndsBlank url := by
  rw [← String.toList_inj, toList_trimUrl]
  constructor
  · rintro heq ⟨c, hc, hblank⟩
    -- Whatever is cleaned only gets shorter, so blanks cannot have been removed.
    have htrim : trimChars url.toList = url.toList := by
      obtain ⟨before, after, hurl, -, -⟩ := exists_surrounded url.toList
      have hlength := congrArg List.length hurl
      have hprefix := (List.rdropWhile_prefix (· = '/') (trimChars url.toList)).length_le
      rw [heq] at hprefix
      simp only [List.length_append] at hlength
      have hbefore : before = [] := List.length_eq_zero_iff.mp (by omega)
      have hafter : after = [] := List.length_eq_zero_iff.mp (by omega)
      rw [hbefore, hafter, List.nil_append, List.append_nil] at hurl
      exact hurl.symm
    rw [← htrim, trimChars] at hc
    rw [isBlank_of_getLast?_trimEndChars hc] at hblank
    cases hblank
  · intro hend
    have htrim : trimChars url.toList = url.toList := by
      refine trimChars_eq_self h.head fun c hc => ?_
      rw [← Bool.not_eq_true]
      exact fun hblank => hend ⟨c, hc, hblank⟩
    rw [htrim, List.rdropWhile_eq_self_iff]
    intro hne hslash
    exact h.last _ (List.getLast?_eq_some_getLast hne) (by simpa using hslash)

/-! ### What a variable makes of an address -/

theorem Holds.trim_eq (h : Holds env name text) : trim text = text := by
  obtain ⟨v, -, -, rfl⟩ := h
  exact trim_trim v

theorem Holds.toList_trimUrl (h : Holds env name text) :
    (trimUrl text).toList = text.toList.rdropWhile (· = '/') := by
  rw [Settings.toList_trimUrl, ← String.toList_ofList (l := trimChars _), ← trim, h.trim_eq]

theorem Holds.not_endsBlank (h : Holds env name text) : ¬ EndsBlank text := by
  rintro ⟨c, hc, hblank⟩
  rw [← h.trim_eq, trim, String.toList_ofList, trimChars] at hc
  rw [isBlank_of_getLast?_trimEndChars hc] at hblank
  cases hblank

/-- **Nothing is left of slashes**, and of them only. -/
theorem Holds.trimUrl_eq_empty_iff (h : Holds env name text) :
    trimUrl text = "" ↔ IsSlashes text := by
  rw [← String.toList_inj, h.toList_trimUrl, String.toList_empty, List.rdropWhile_eq_nil_iff]
  simp [IsSlashes]

/-- **A blank is left at the end exactly if it was in front of the slashes there.** -/
theorem Holds.endsBlank_trimUrl_iff (h : Holds env name text) :
    EndsBlank (trimUrl text) ↔ HidesBlank text := by
  have hsplit := List.rdropWhile_append_rtakeWhile (p := (· = '/')) (l := text.toList)
  rw [EndsBlank, h.toList_trimUrl]
  constructor
  · rintro ⟨b, hb, hblank⟩
    obtain ⟨front, hfront⟩ := List.getLast?_eq_some_iff.mp hb
    rw [hfront] at hsplit
    refine ⟨front, b, text.toList.rtakeWhile (· = '/'), ?_, hblank, ?_, fun c hc => ?_⟩
    · rw [List.append_cons, hsplit]
    · intro hnil
      refine h.not_endsBlank ⟨b, ?_, hblank⟩
      rw [← hsplit, hnil, List.append_nil, List.getLast?_concat]
    · simpa using List.mem_rtakeWhile_imp hc
  · rintro ⟨front, b, slashes, htext, hblank, -, hslashes⟩
    refine ⟨b, ?_, hblank⟩
    have hb : ¬ (b = '/') := by
      rintro rfl
      cases hblank
    have hdrop : text.toList.rdropWhile (· = '/') = front ++ [b] := by
      rw [htext, List.append_cons, List.rdropWhile, List.reverse_append,
        List.dropWhile_append_of_pos fun c hc => by simpa using hslashes c (List.mem_reverse.mp hc),
        ← List.rdropWhile, List.rdropWhile_concat_neg _ _ _ (by simpa using hb)]
    rw [hdrop, List.getLast?_concat]

/-- An address is made of the text of a variable, or is a standard one if there is no text. -/
def ComesFrom (env : Environment) (name standard url : String) : Prop :=
  ((∀ text, ¬ Holds env name text) ∧ url = standard) ∨
    ∃ text, Holds env name text ∧ url = trimUrl text

namespace ComesFrom

theorem isStripped (h : ComesFrom env name standard url) (hstandard : IsNormal standard) :
    IsStripped url := by
  rcases h with ⟨-, rfl⟩ | ⟨text, -, rfl⟩
  · exact hstandard.toIsStripped
  · exact isStripped_trimUrl text

theorem eq_empty_iff (h : ComesFrom env name standard url) (hstandard : IsNormal standard) :
    url = "" ↔ ∃ text, Holds env name text ∧ IsSlashes text := by
  rcases h with ⟨hnone, rfl⟩ | ⟨text, htext, rfl⟩
  · exact iff_of_false hstandard.ne_empty fun ⟨text, htext, _⟩ => hnone text htext
  · rw [htext.trimUrl_eq_empty_iff]
    exact ⟨fun h => ⟨text, htext, h⟩, fun ⟨_, ht, h⟩ => htext.unique ht ▸ h⟩

theorem endsBlank_iff (h : ComesFrom env name standard url) (hstandard : IsNormal standard) :
    EndsBlank url ↔ ∃ text, Holds env name text ∧ HidesBlank text := by
  rcases h with ⟨hnone, rfl⟩ | ⟨text, htext, rfl⟩
  · exact iff_of_false hstandard.not_endsBlank fun ⟨text, htext, _⟩ => hnone text htext
  · rw [htext.endsBlank_trimUrl_iff]
    exact ⟨fun h => ⟨text, htext, h⟩, fun ⟨_, ht, h⟩ => htext.unique ht ▸ h⟩

/-- The second cleaning changes nothing exactly if no blank was hidden. -/
theorem trimUrl_eq_self_iff (h : ComesFrom env name standard url) (hstandard : IsNormal standard) :
    trimUrl url = url ↔ ∀ text, Holds env name text → ¬ HidesBlank text := by
  rw [Settings.trimUrl_eq_self_iff (h.isStripped hstandard), h.endsBlank_iff hstandard]
  push Not
  rfl

theorem isNormal_iff (h : ComesFrom env name standard url) (hstandard : IsNormal standard) :
    IsNormal url ↔ ∀ text, Holds env name text → ¬ IsSlashes text ∧ ¬ HidesBlank text := by
  have hstripped := h.isStripped hstandard
  have hiff : IsNormal url ↔ url ≠ "" ∧ ¬ EndsBlank url :=
    ⟨fun hn => ⟨hn.ne_empty, hn.not_endsBlank⟩, fun hn => ⟨hstripped, hn.1, hn.2⟩⟩
  rw [hiff, ne_eq, h.eq_empty_iff hstandard, h.endsBlank_iff hstandard]
  push Not
  exact ⟨fun hn text htext => ⟨hn.1 text htext, hn.2 text htext⟩,
    fun hn => ⟨fun text htext => (hn text htext).1, fun text htext => (hn text htext).2⟩⟩

end ComesFrom

/-! ### The two addresses -/

theorem comesFrom_orStandard (env : Environment) (name standard : String) :
    ComesFrom env name standard (orStandard standard trimUrl (env.get? name)) := by
  rw [← getD_textAt]
  cases htext : textAt env name with
  | none =>
    refine Or.inl ⟨fun text h => ?_, rfl⟩
    cases htext.symm.trans (textAt_eq_some.mpr h)
  | some text => exact Or.inr ⟨text, textAt_eq_some.mp htext, rfl⟩

/-- A variable that can be left blank comes to nothing only if there are no more than slashes in
it. -/
theorem isSlashes_of_orNone (h : orNone standard trimUrl (env.get? name) = none)
    (htext : Holds env name text) : IsSlashes text := by
  rw [← htext.trimUrl_eq_empty_iff]
  obtain ⟨v, hv, hblank, rfl⟩ := htext
  rw [hv, orNone, if_neg (by rw [hblank]; exact Bool.false_ne_true), unlessEmpty] at h
  rw [trimUrl_trim]
  split at h
  · rename_i hempty
    exact String.isEmpty_iff.mp hempty
  · cases h

theorem comesFrom_orNone (hstandard : standard ≠ "")
    (h : orNone standard trimUrl (env.get? name) = some url) :
    url ≠ "" ∧ ComesFrom env name standard url := by
  cases hv : env.get? name with
  | none =>
    rw [hv] at h
    obtain rfl := Option.some.inj h
    refine ⟨hstandard, Or.inl ⟨?_, rfl⟩⟩
    rintro text ⟨v, hsome, -⟩
    cases hv.symm.trans hsome
  | some v =>
    rw [hv, orNone, unlessEmpty] at h
    split at h
    · cases h
    · rename_i hblank
      split at h
      · cases h
      · rename_i hne
        obtain rfl := Option.some.inj h
        refine ⟨fun hempty => hne (String.isEmpty_iff.mpr hempty), Or.inr ⟨trim v, ?_, ?_⟩⟩
        · exact ⟨v, hv, by simpa using hblank, rfl⟩
        · exact (trimUrl_trim v).symm

/-- Slashes hide no blank. -/
theorem IsSlashes.not_hidesBlank (h : IsSlashes text) : ¬ HidesBlank text := by
  rintro ⟨front, b, slashes, htext, hblank, -⟩
  obtain rfl : b = '/' := h b (by simp [htext])
  cases hblank

/-- What a server makes of a second address is the address exactly if cleaning leaves it alone. -/
theorem unlessEmpty_trimUrl_iff (hne : url ≠ "") :
    unlessEmpty (trimUrl url) = some url ↔ trimUrl url = url := by
  rw [unlessEmpty]
  split
  · rename_i hempty
    rw [String.isEmpty_iff.mp hempty]
    exact iff_of_false (by rintro ⟨⟩) hne.symm
  · exact Option.some_inj

theorem eq_byVariables (h : ofEnvironment env platformDir = .ok s) :
    s = byVariables env platformDir := by
  rw [ofEnvironment_eq] at h
  cases hnone : numerals.findSome? (complaint? env) with
  | none =>
    rw [hnone] at h
    exact (Except.ok.inj h).symm
  | some f =>
    rw [hnone] at h
    cases h

/-- **The addresses of the settings.** Never is a blank in front of one, nor a slash at its end, and
a second address is never empty. Apart from that, it depends on the text of the variable.

* The first address is in normal form exactly if that text is not all slashes and has no blank in
  front of slashes at its end; for the second, slashes alone do no harm.
* What a server makes of an address is the address itself exactly if there is no such blank. -/
theorem addresses_of_settings (h : ofEnvironment env platformDir = .ok s) :
    (IsStripped s.apiUrl ∧
      (IsNormal s.apiUrl ↔ ∀ text, Holds env "CHAT_API_URL" text →
        ¬ IsSlashes text ∧ ¬ HidesBlank text) ∧
      ((Http.Server.ofSettings s).base = s.apiUrl ↔ ∀ text, Holds env "CHAT_API_URL" text →
        ¬ HidesBlank text)) ∧
    (∀ url, s.fallbackUrl = some url → IsStripped url ∧ url ≠ "" ∧
      (IsNormal url ↔ ∀ text, Holds env "CHAT_FALLBACK_URL" text → ¬ HidesBlank text)) ∧
    ((Http.Server.ofSettings s).fallback = s.fallbackUrl ↔
      ∀ text, Holds env "CHAT_FALLBACK_URL" text → ¬ HidesBlank text) := by
  obtain ⟨hfirst, hsecond⟩ := isNormal_of_standard
  have hapi : ComesFrom env "CHAT_API_URL" "http://localhost:3000/api/v1" s.apiUrl := by
    rw [eq_byVariables h]
    exact comesFrom_orStandard env "CHAT_API_URL" _
  have hfallback : s.fallbackUrl = orNone _ trimUrl (env.get? "CHAT_FALLBACK_URL") :=
    congrArg Settings.fallbackUrl (eq_byVariables h)
  refine ⟨⟨hapi.isStripped hfirst, hapi.isNormal_iff hfirst, hapi.trimUrl_eq_self_iff hfirst⟩,
    fun url hurl => ?_, ?_⟩
  · obtain ⟨hne, hcomes⟩ := comesFrom_orNone hsecond.ne_empty (hfallback.symm.trans hurl)
    have hslashes : ∀ text, Holds env "CHAT_FALLBACK_URL" text → ¬ IsSlashes text :=
      fun text htext h => hne ((hcomes.eq_empty_iff hsecond).mpr ⟨text, htext, h⟩)
    refine ⟨hcomes.isStripped hsecond, hne, ?_⟩
    rw [hcomes.isNormal_iff hsecond]
    exact forall₂_congr fun text htext => and_iff_right (hslashes text htext)
  · change (s.fallbackUrl.map trimUrl).bind unlessEmpty = s.fallbackUrl ↔ _
    cases hurl : s.fallbackUrl with
    | none =>
      have hnone := hfallback.symm.trans hurl
      exact iff_of_true rfl fun text htext => (isSlashes_of_orNone hnone htext).not_hidesBlank
    | some url =>
      obtain ⟨hne, hcomes⟩ := comesFrom_orNone hsecond.ne_empty (hfallback.symm.trans hurl)
      rw [Option.map_some, Option.bind_some, unlessEmpty_trimUrl_iff hne]
      exact hcomes.trimUrl_eq_self_iff hsecond

/-- With slashes at the end of an address and blanks around all of it, it is in normal form: no blank
is in front of those slashes. -/
theorem addresses_of_settings_surrounded :
    ofEnvironment ⟨[("CHAT_API_URL", " http://h// ")]⟩ "/d" =
        .ok (byVariables ⟨[("CHAT_API_URL", " http://h// ")]⟩ "/d") ∧
      IsNormal (byVariables ⟨[("CHAT_API_URL", " http://h// ")]⟩ "/d").apiUrl := by
  have hok : ofEnvironment ⟨[("CHAT_API_URL", " http://h// ")]⟩ "/d" =
      .ok (byVariables ⟨[("CHAT_API_URL", " http://h// ")]⟩ "/d") := by rfl
  refine ⟨hok, (addresses_of_settings hok).1.2.1.mpr ?_⟩
  rintro text ⟨v, hv, -, rfl⟩
  obtain rfl : " http://h// " = v := by simpa [Environment.get?] using hv
  constructor
  · intro hslashes
    exact absurd (hslashes 'h' (by decide)) (by decide)
  · rintro ⟨front, b, slashes, htext, hblank, -⟩
    have hnone : (trim " http://h// ").toList.all (! isBlank ·) = true := by decide
    have hb := List.all_eq_true.mp hnone b (by simp [htext])
    rw [hblank] at hb
    cases hb

/-- **Of slashes alone nothing is left as an address**, and a blank in front of slashes is kept in
the settings, where the server drops it. -/
theorem not_normal_of_slashes :
    (∃ s, ofEnvironment ⟨[("CHAT_API_URL", "/")]⟩ "/d" = .ok s ∧ ¬ IsNormal s.apiUrl) ∧
      ∃ s, ofEnvironment ⟨[("CHAT_API_URL", "http://h /")]⟩ "/d" = .ok s ∧
        EndsBlank s.apiUrl ∧ (Http.Server.ofSettings s).base ≠ s.apiUrl := by
  constructor
  · exact ⟨byVariables ⟨[("CHAT_API_URL", "/")]⟩ "/d", by rfl, fun h => h.ne_empty (by decide)⟩
  · exact ⟨byVariables ⟨[("CHAT_API_URL", "http://h /")]⟩ "/d", by rfl, ⟨' ', by decide, rfl⟩,
      by decide⟩

end Parley.Settings
