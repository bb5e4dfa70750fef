import Mathlib.Data.List.Induction
import Mathlib.Data.List.Nodup
import Parley.Artifact.Store
import Parley.Numeral.Total

/-!
# What a store holds

A store forgets nothing between two times that it is emptied, and keeps of what it is given exactly
what is new: the artifacts whose identifier has not come before, in an earlier batch or earlier in
the same one. So what it holds can be read off the batches it was given
(`Parley.Store.listing`), without following it from one batch to the next: the newest batch first,
every batch in its own order, and of every identifier the artifact that came first with it.

Artifacts that come without identifier are given one before anything else is looked at
(`Parley.Store.label`), so the batches that count are the labelled ones. That a drawn identifier is
new is not needed for any of this: one that is not is treated like any other.
-/

namespace Parley

/-- A name that is drawn for an artifact is not empty. -/
theorem Supply.artifactName_ne_empty (time : Time.Instant) (tag : Nat) :
    artifactName time tag ≠ "" := by
  intro h
  have hlength := congrArg (fun s : String => s.toList.length) h
  simp [artifactName, tagChars] at hlength

namespace Store

variable {st : Store} {known known' : List String} {batch as : List Artifact}
  {bs : List (List Artifact)} {s : Supply} {id : String}

/-! ### Labelled batches -/

/-- A batch in which every artifact has an identifier: one that has none is given one. -/
def label : List Artifact → Supply → List Artifact × Supply
  | [], s => ([], s)
  | a :: as, s =>
    if a.id.isEmpty then
      ({ a with id := s.artifactId.1 } :: (label as s.artifactId.2).1, (label as s.artifactId.2).2)
    else (a :: (label as s).1, (label as s).2)

/-- An artifact as it is labelled: it is as it was, or it had no identifier and was given one. -/
def IsLabelled (a x : Artifact) : Prop :=
  if a.id = "" then ∃ time tag, x = { a with id := Supply.artifactName time tag } else x = a

/-- **Labelling a batch changes nothing but the identifiers of artifacts that have none.** -/
theorem forall₂_label (batch : List Artifact) (s : Supply) :
    List.Forall₂ IsLabelled batch (label batch s).1 := by
  induction batch generalizing s with
  | nil => exact .nil
  | cons a as ih =>
    unfold label
    split
    · rename_i h
      refine .cons ?_ (ih _)
      rw [IsLabelled, if_pos (String.isEmpty_iff.mp h)]
      exact ⟨s.now, s.tag, rfl⟩
    · rename_i h
      refine .cons ?_ (ih _)
      rw [IsLabelled, if_neg (fun hempty => h (String.isEmpty_iff.mpr hempty))]

/-- **A labelled artifact has an identifier.** -/
theorem id_ne_of_mem_label {x : Artifact} (hx : x ∈ (label batch s).1) : x.id ≠ "" := by
  induction batch generalizing s with
  | nil => cases hx
  | cons a as ih =>
    unfold label at hx
    split at hx
    · rcases List.mem_cons.mp hx with rfl | hx
      · exact Supply.artifactName_ne_empty s.now s.tag
      · exact ih hx
    · rename_i h
      rcases List.mem_cons.mp hx with rfl | hx
      · exact fun hempty => h (String.isEmpty_iff.mpr hempty)
      · exact ih hx

/-- A batch in which every artifact has an identifier is labelled as it is. -/
theorem label_eq_self (h : ∀ a ∈ batch, a.id ≠ "") : label batch s = (batch, s) := by
  induction batch with
  | nil => rfl
  | cons a as ih =>
    obtain ⟨ha, has⟩ := List.forall_mem_cons.mp h
    rw [label, if_neg (fun hempty => ha (String.isEmpty_iff.mp hempty)), ih has]

/-! ### What is new in a batch -/

/-- What is new in a batch: the artifacts whose identifier is neither known nor that of an artifact
before them. -/
def novel (known : List String) (batch : List Artifact) : List Artifact :=
  (batch.zipIdx.filter fun y => y.1.id ∉ known ∧ y.1.id ∉ (batch.take y.2).map (·.id)).map (·.1)

@[simp] theorem novel_nil : novel known [] = [] := rfl

/-- What is new in a batch is the first of them, if it is, and what is new behind it with that one
known. -/
theorem novel_cons (a : Artifact) : novel known (a :: as) =
    if a.id ∈ known then novel (a.id :: known) as else a :: novel (a.id :: known) as := by
  have hbehind : ∀ y : Artifact × Nat,
      (y.1.id ∉ known ∧ y.1.id ∉ ((a :: as).take (y.2 + 1)).map (·.id)) ↔
        y.1.id ∉ a.id :: known ∧ y.1.id ∉ (as.take y.2).map (·.id) := by
    intro y
    simp only [List.take_succ_cons, List.map_cons, List.mem_cons, not_or]
    tauto
  simp only [novel, List.zipIdx_cons', List.filter_cons, List.filter_map, Function.comp_def,
    Prod.map_fst, Prod.map_snd, id_eq, hbehind, List.take_zero, List.map_nil, List.not_mem_nil,
    not_false_eq_true, and_true, decide_not]
  split <;> split <;> simp_all

/-- It is of no account how often or in which order something is known. -/
theorem novel_congr (h : ∀ id, id ∈ known ↔ id ∈ known') : novel known batch = novel known' batch := by
  simp only [novel, h]

theorem novel_cons_of_mem {a : Artifact} (h : a.id ∈ known) :
    novel known (a :: as) = novel known as := by
  rw [novel_cons, if_pos h]
  refine novel_congr fun id => ?_
  rw [List.mem_cons]
  exact ⟨fun hid => hid.elim (fun he => he ▸ h) fun hid => hid, .inr⟩

theorem novel_cons_of_notMem {a : Artifact} (h : a.id ∉ known) :
    novel known (a :: as) = a :: novel (a.id :: known) as := by
  rw [novel_cons, if_neg h]

/-- **Of an identifier that is not known, the first artifact of a batch is new**, and no other. -/
theorem find?_novel (h : id ∉ known) :
    (novel known batch).find? (·.id == id) = batch.find? (·.id == id) := by
  induction batch generalizing known with
  | nil => rfl
  | cons a as ih =>
    rw [novel_cons, List.find?_cons]
    by_cases ha : a.id = id
    · rw [if_neg (ha ▸ h), List.find?_cons, ha, beq_self_eq_true]
    · have hunknown : id ∉ a.id :: known := by simp [h, Ne.symm ha]
      have hbehind := ih hunknown
      have hother : (a.id == id) = false := by simpa using ha
      split
      · rw [hbehind, hother]
      · rw [List.find?_cons, hbehind]

/-- The identifiers of what is new are those that are not known. -/
theorem mem_ids_novel :
    id ∈ (novel known batch).map (·.id) ↔ id ∉ known ∧ id ∈ batch.map (·.id) := by
  induction batch generalizing known with
  | nil => simp
  | cons a as ih =>
    rw [novel_cons]
    split
    · rename_i ha
      rw [ih, List.map_cons, List.mem_cons, List.mem_cons, not_or]
      constructor
      · rintro ⟨⟨-, h⟩, h'⟩
        exact ⟨h, .inr h'⟩
      · rintro ⟨h, h'⟩
        have hne : id ≠ a.id := fun he => h (he ▸ ha)
        exact ⟨⟨hne, h⟩, h'.resolve_left hne⟩
    · rename_i ha
      rw [List.map_cons, List.mem_cons, ih, List.map_cons, List.mem_cons, List.mem_cons, not_or]
      constructor
      · rintro (rfl | ⟨⟨-, h⟩, h'⟩)
        · exact ⟨ha, .inl rfl⟩
        · exact ⟨h, .inr h'⟩
      · rintro ⟨h, h'⟩
        by_cases he : id = a.id
        · exact .inl he
        · exact .inr ⟨⟨he, h⟩, h'.resolve_left he⟩

/-- What is new in a batch has every identifier once. -/
theorem nodup_ids_novel : ((novel known batch).map (·.id)).Nodup := by
  induction batch generalizing known with
  | nil => exact List.nodup_nil
  | cons a as ih =>
    rw [novel_cons]
    split
    · exact ih
    · refine List.nodup_cons.mpr ⟨fun h => ?_, ih⟩
      exact (mem_ids_novel.mp h).1 List.mem_cons_self

/-- Where everything is known nothing is new. -/
theorem novel_eq_nil (h : ∀ a ∈ batch, a.id ∈ known) : novel known batch = [] := by
  rw [← List.map_eq_nil_iff (f := (·.id)), List.eq_nil_iff_forall_not_mem]
  intro id hid
  obtain ⟨hunknown, hid⟩ := mem_ids_novel.mp hid
  obtain ⟨a, ha, rfl⟩ := List.mem_map.mp hid
  exact hunknown (h a ha)

/-- An identifier that no artifact of a list has is not found there. -/
theorem find?_eq_none (h : id ∉ as.map (·.id)) : as.find? (·.id == id) = none := by
  rw [List.find?_eq_none]
  intro a ha heq
  exact h (List.mem_map.mpr ⟨a, ha, by simpa using heq⟩)

/-! ### One batch -/

/-- **What is chosen from a batch is what is new in it** once it is labelled. -/
theorem choose_eq (batch : List Artifact) (seen : List String) (s : Supply) :
    (choose batch seen s).1 = novel seen (label batch s).1 ∧
      (choose batch seen s).2.2 = (label batch s).2 := by
  induction batch generalizing seen s with
  | nil => exact ⟨rfl, rfl⟩
  | cons a as ih =>
    simp only [choose, label, List.contains_iff_mem]
    split
    · split
      · rename_i h
        rw [novel_cons_of_mem h]
        exact ih seen _
      · rename_i h
        rw [novel_cons_of_notMem h]
        obtain ⟨hchosen, hsupply⟩ := ih (s.artifactId.1 :: seen) s.artifactId.2
        exact ⟨congrArg _ hchosen, hsupply⟩
    · split
      · rename_i h
        rw [novel_cons_of_mem h]
        exact ih seen s
      · rename_i h
        rw [novel_cons_of_notMem h]
        obtain ⟨hchosen, hsupply⟩ := ih (a.id :: seen) s
        exact ⟨congrArg _ hchosen, hsupply⟩

theorem items_ingest (st : Store) (batch : List Artifact) (s : Supply) :
    (st.ingest batch s).store.items = novel st.ids (label batch s).1 ++ st.items := by
  rw [← (choose_eq batch st.ids s).1]
  rfl

theorem added_ingest (st : Store) (batch : List Artifact) (s : Supply) :
    (st.ingest batch s).added = (novel st.ids (label batch s).1).length := by
  rw [← (choose_eq batch st.ids s).1]
  rfl

theorem supply_ingest (st : Store) (batch : List Artifact) (s : Supply) :
    (st.ingest batch s).supply = (label batch s).2 :=
  (choose_eq batch st.ids s).2

/-- An artifact that is found has the identifier, and its identifier is there. -/
theorem of_find?_eq_some {x : Artifact} (h : st.find? id = some x) : x.id = id ∧ id ∈ st.ids := by
  have hid : x.id = id := by simpa using List.find?_some h
  exact ⟨hid, List.mem_map.mpr ⟨x, List.mem_of_find?_eq_some h, hid⟩⟩

/-- **Whatever comes, what was found is found again**, as it was. -/
theorem find?_ingest {x : Artifact} (h : st.find? id = some x) (batch : List Artifact)
    (s : Supply) : (st.ingest batch s).store.find? id = some x := by
  have hnew : (novel st.ids (label batch s).1).find? (·.id == id) = none :=
    find?_eq_none fun hid => (mem_ids_novel.mp hid).1 (of_find?_eq_some h).2
  rw [find?, items_ingest, List.find?_append, hnew, Option.none_or]
  exact h

/-- **Artifacts whose identifiers are there change nothing**, and none of them is added. -/
theorem ingest_known (h : ∀ a ∈ batch, a.id ≠ "" ∧ a.id ∈ st.ids) :
    (st.ingest batch s).store = st ∧ (st.ingest batch s).added = 0 ∧
      (st.ingest batch s).supply = s := by
  have hlabel : label batch s = (batch, s) := label_eq_self fun a ha => (h a ha).1
  have hnovel : novel st.ids (label batch s).1 = [] := by
    rw [hlabel]
    exact novel_eq_nil fun a ha => (h a ha).2
  refine ⟨?_, ?_, ?_⟩
  · have hitems := items_ingest st batch s
    rw [hnovel, List.nil_append] at hitems
    exact congrArg mk hitems
  · rw [added_ingest, hnovel, List.length_nil]
  · rw [supply_ingest, hlabel]

/-! ### Many batches -/

/-- What a store holds after some labelled batches: what was new in each of them, that of the
latest in front. -/
def listing (bs : List (List Artifact)) : List Artifact :=
  (bs.zipIdx.map fun y => novel ((bs.take y.2).flatten.map (·.id)) y.1).reverse.flatten

theorem listing_concat (bs : List (List Artifact)) (b : List Artifact) :
    listing (bs ++ [b]) = novel (bs.flatten.map (·.id)) b ++ listing bs := by
  have hbefore : bs.zipIdx.map (fun y =>
        novel (((bs ++ [b]).take y.2).flatten.map (·.id)) y.1) =
      bs.zipIdx.map fun y => novel ((bs.take y.2).flatten.map (·.id)) y.1 := by
    refine List.map_congr_left fun y hy => ?_
    rw [List.take_append_of_le_length (Nat.le_of_lt (List.snd_lt_of_mem_zipIdx hy))]
  rw [listing, List.zipIdx_append, List.map_append, hbefore, List.reverse_append,
    List.flatten_append, Nat.zero_add]
  simp only [List.zipIdx_cons, List.zipIdx_nil, List.map_cons, List.map_nil,
    List.reverse_singleton, List.flatten_singleton, List.take_left]
  rfl

/-- What a store holds has the identifiers of the batches. -/
theorem mem_ids_listing : id ∈ (listing bs).map (·.id) ↔ id ∈ bs.flatten.map (·.id) := by
  induction bs using List.reverseRecOn with
  | nil => rfl
  | append_singleton bs b ih =>
    rw [listing_concat, List.map_append, List.mem_append, ih, mem_ids_novel, List.flatten_concat,
      List.map_append, List.mem_append]
    tauto

/-- **What a store holds has every identifier once.** -/
theorem nodup_ids_listing (bs : List (List Artifact)) : ((listing bs).map (·.id)).Nodup := by
  induction bs using List.reverseRecOn with
  | nil => exact List.nodup_nil
  | append_singleton bs b ih =>
    rw [listing_concat, List.map_append, List.nodup_append]
    refine ⟨nodup_ids_novel, ih, ?_⟩
    rintro id hid _ hid' rfl
    exact (mem_ids_novel.mp hid).1 (mem_ids_listing.mp hid')

/-- **Of every identifier a store holds the artifact that came first with it.** -/
theorem find?_listing (bs : List (List Artifact)) (id : String) :
    (listing bs).find? (·.id == id) = bs.flatten.find? (·.id == id) := by
  induction bs using List.reverseRecOn with
  | nil => rfl
  | append_singleton bs b ih =>
    rw [listing_concat, List.find?_append, ih, List.flatten_concat, List.find?_append]
    by_cases h : id ∈ bs.flatten.map (·.id)
    · have hold : (novel (bs.flatten.map (·.id)) b).find? (·.id == id) = none :=
        find?_eq_none fun hid => (mem_ids_novel.mp hid).1 h
      have hfound : (bs.flatten.find? (·.id == id)).isSome := by
        obtain ⟨a, ha, rfl⟩ := List.mem_map.mp h
        rw [List.find?_isSome]
        exact ⟨a, ha, by simp⟩
      obtain ⟨a, ha⟩ := Option.isSome_iff_exists.mp hfound
      rw [hold, Option.none_or, ha, Option.some_or]
    · rw [find?_novel h, find?_eq_none h, Option.or_none, Option.none_or]

/-! ### What is done to a store -/

/-- A batch, with the supply that there is when it comes. -/
abbrev Parcel := List Artifact × Supply

/-- What is done to a store. -/
inductive Deed
  | ingest (c : Parcel)
  | clear

/-- The store after a deed. -/
def does (st : Store) : Deed → Store
  | .ingest c => (st.ingest c.1 c.2).store
  | .clear => .empty

/-- The store after some parcels. -/
def takes (st : Store) (cs : List Parcel) : Store := cs.foldl (fun st c => st.does (.ingest c)) st

/-- What came since the store was emptied last, or since there is one. -/
def since (ds : List Deed) : List Parcel :=
  ds.foldl (fun cs d => match d with
    | .ingest c => cs ++ [c]
    | .clear => []) []

/-- How many artifacts every one of some parcels added. -/
def counts (st : Store) : List Parcel → List Nat
  | [] => []
  | c :: cs => (st.ingest c.1 c.2).added :: counts (st.does (.ingest c)) cs

/-- The labelled batches of some parcels. -/
def batches (cs : List Parcel) : List (List Artifact) := cs.map fun c => (label c.1 c.2).1

/-- **What was done before a store was emptied is of no account.** -/
theorem foldl_does (ds : List Deed) : ds.foldl does empty = empty.takes (since ds) := by
  induction ds using List.reverseRecOn with
  | nil => rfl
  | append_singleton ds d ih =>
    rw [List.foldl_append, ih]
    cases d with
    | ingest c =>
      have hsince : since (ds ++ [.ingest c]) = since ds ++ [c] := List.foldl_append
      rw [hsince, takes, takes, List.foldl_append]
      rfl
    | clear =>
      have hsince : since (ds ++ [.clear]) = [] := List.foldl_append
      rw [hsince]
      rfl

/-- **A store holds what can be read off its batches.** -/
theorem items_takes (cs : List Parcel) : (empty.takes cs).items = listing (batches cs) := by
  induction cs using List.reverseRecOn with
  | nil => rfl
  | append_singleton cs c ih =>
    have hids : ∀ id, id ∈ (empty.takes cs).ids ↔ id ∈ (batches cs).flatten.map (·.id) := by
      intro id
      rw [ids, ih]
      exact mem_ids_listing
    have hbatches : batches (cs ++ [c]) = batches cs ++ [(label c.1 c.2).1] := List.map_append
    rw [takes, List.foldl_append, hbatches, listing_concat, ← ih, ← novel_congr hids]
    exact items_ingest _ _ _

/-- What every parcel adds makes up what is there. -/
theorem total_counts (st : Store) (cs : List Parcel) :
    st.size + Numeral.total (st.counts cs) = (st.takes cs).size := by
  induction cs generalizing st with
  | nil => rfl
  | cons c cs ih =>
    have hsize : (st.does (.ingest c)).size = (st.ingest c.1 c.2).added + st.size := by
      rw [added_ingest]
      exact (congrArg List.length (items_ingest st c.1 c.2)).trans List.length_append
    have hrest := ih (st.does (.ingest c))
    rw [hsize] at hrest
    rw [counts, Numeral.total_cons]
    change st.size + _ = ((st.does (.ingest c)).takes cs).size
    omega

/-- **What is there already may come again**, in any order and grouping: nothing is added, and no
identifier is drawn. -/
theorem takes_known (cs : List Parcel) (h : ∀ c ∈ cs, ∀ a ∈ c.1, a.id ≠ "" ∧ a.id ∈ st.ids) :
    st.takes cs = st ∧ (∀ k ∈ st.counts cs, k = 0) ∧
      ∀ c ∈ cs, (st.ingest c.1 c.2).supply = c.2 := by
  induction cs with
  | nil => exact ⟨rfl, List.forall_mem_nil _, List.forall_mem_nil _⟩
  | cons c cs ih =>
    obtain ⟨hc, hcs⟩ := List.forall_mem_cons.mp h
    obtain ⟨hstore, hadded, hsupply⟩ := ingest_known (s := c.2) hc
    have hdoes : st.does (.ingest c) = st := hstore
    obtain ⟨htakes, hcounts, hsupplies⟩ := ih hcs
    rw [counts, hdoes, List.forall_mem_cons, List.forall_mem_cons]
    refine ⟨?_, ⟨hadded, hcounts⟩, hsupply, hsupplies⟩
    rw [takes, List.foldl_cons, hdoes]
    exact htakes

/-- **What a store holds**, whatever was done to it. The parcels since it was emptied last are what
counts, and every batch of them is labelled first: an artifact that comes without identifier is
given one, and nothing else is changed.

* The items are those of every labelled batch whose identifier occurs neither in an earlier batch
  nor before them in their own, in the order of the batch, the latest batch in front.
* No two of them have the same identifier, and none has an empty one.
* Under an identifier the first artifact is found that came with it, and nothing if none did.
* A batch adds as many artifacts as are new in it, and together the parcels have added as many as
  there are.
* Artifacts that come again with identifiers that came before change nothing, are not counted and
  draw nothing, in whatever order and grouping. -/
theorem closed_form (ds : List Deed) :
    let st := ds.foldl does empty
    let bs := batches (since ds)
    List.Forall₂ (fun c b => List.Forall₂ IsLabelled c.1 b) (since ds) bs ∧
      st.items = listing bs ∧
      (st.ids.Nodup ∧ "" ∉ st.ids) ∧
      (∀ id, st.find? id = bs.flatten.find? (·.id == id)) ∧
      (∀ batch s, (st.ingest batch s).added =
        (novel (bs.flatten.map (·.id)) (label batch s).1).length) ∧
      Numeral.total (empty.counts (since ds)) = st.size ∧
      ∀ cs : List Parcel, (∀ c ∈ cs, ∀ a ∈ c.1, a.id ≠ "" ∧ a.id ∈ bs.flatten.map (·.id)) →
        st.takes cs = st ∧ (∀ k ∈ st.counts cs, k = 0) ∧
          ∀ c ∈ cs, (st.ingest c.1 c.2).supply = c.2 := by
  intro st bs
  have hst : st = empty.takes (since ds) := foldl_does ds
  have hitems : st.items = listing bs := hst ▸ items_takes (since ds)
  have hids : ∀ id, id ∈ st.ids ↔ id ∈ bs.flatten.map (·.id) := by
    intro id
    rw [ids, hitems]
    exact mem_ids_listing
  refine ⟨?_, hitems, ⟨?_, ?_⟩, fun id => ?_, fun batch s => ?_, ?_, fun cs hcs => ?_⟩
  · exact List.forall₂_map_right_iff.mpr (List.forall₂_same.mpr fun c _ => forall₂_label c.1 c.2)
  · rw [ids, hitems]
    exact nodup_ids_listing bs
  · intro hempty
    obtain ⟨x, hx, hid⟩ := List.mem_map.mp ((hids _).mp hempty)
    obtain ⟨b, hb, hx⟩ := List.mem_flatten.mp hx
    obtain ⟨c, -, rfl⟩ := List.mem_map.mp hb
    exact id_ne_of_mem_label hx hid
  · rw [find?, hitems, find?_listing]
  · rw [added_ingest, novel_congr hids]
  · rw [hst, ← total_counts empty]
    exact (Nat.zero_add _).symm
  · exact takes_known cs fun c hc a ha => ⟨(hcs c hc a ha).1, (hids _).mpr (hcs c hc a ha).2⟩

/-- An artifact comes before the store is emptied, and two batches after, the second with an
identifier of the first and one without. The first two come again, in another order. -/
theorem closed_form_of_repeats :
    let named (id : String) : Artifact := ⟨id, "", "", .null, none, default⟩
    let first : Parcel := ([named "a", named "b", named "a"], default)
    let second : Parcel := ([named "b", named "", named "c"], default)
    let again : Parcel := ([named "b", named "a"], default)
    let st := [Deed.ingest ([named "z"], default), .clear, .ingest first, .ingest second].foldl does
      empty
    (st.size = 4 ∧ st.ids.drop 1 = ["c", "a", "b"]) ∧
      st.takes [again, again] = st ∧ ∀ k ∈ st.counts [again, again], k = 0 := by
  intro named first second again st
  refine ⟨by decide +kernel, ?_⟩
  obtain ⟨-, -, -, -, -, -, hknown⟩ :=
    closed_form [Deed.ingest ([named "z"], default), .clear, .ingest first, .ingest second]
  obtain ⟨htakes, hcounts, -⟩ := hknown [again, again] (by decide +kernel)
  exact ⟨htakes, hcounts⟩

end Store

end Parley
