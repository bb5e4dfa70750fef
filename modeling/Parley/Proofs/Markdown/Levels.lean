import Mathlib.Tactic.SplitIfs
import Parley.Markdown

/-!
# The levels of headings

A heading has one of six levels. Nothing in a tree says so, for there the level is a number; it is
because of how headings are read, by up to six signs in front or by one of two lines underneath
(`Parley.Markdown.level_of_headingSign?`, `Parley.Markdown.level_of_underline?`), and because
whatever else is done to the outline of a text only moves blocks about
(`Parley.Markdown.Outline.IsLevelled`).
-/

namespace Parley.Markdown

open Parley.Text

/-! ### Blocks whose headings have a level -/

mutual

/-- Every heading in a block has one of the six levels. -/
def Block.IsLevelled {φ : Type} : Block φ → Prop
  | .heading n _ => 1 ≤ n ∧ n ≤ 6
  | .quote bs => AreLevelled bs
  | .list _ _ items => ItemsAreLevelled items
  | .paragraph _ | .rule | .code _ _ | .raw _ | .table _ _ _ => True

/-- Every heading in a sequence of blocks has one of the six levels. -/
def AreLevelled {φ : Type} : List (Block φ) → Prop
  | [] => True
  | b :: bs => b.IsLevelled ∧ AreLevelled bs

/-- Every heading in the items of a list has one of the six levels. -/
def ItemsAreLevelled {φ : Type} : List (List (Block φ)) → Prop
  | [] => True
  | i :: is => AreLevelled i ∧ ItemsAreLevelled is

end

variable {φ : Type} {b : Sketch} {bs : List (Block φ)} {items : List (List (Block φ))}

theorem areLevelled_iff : AreLevelled bs ↔ ∀ b ∈ bs, b.IsLevelled := by
  induction bs with
  | nil => simp [AreLevelled]
  | cons b bs ih => simp [AreLevelled, ih]

theorem itemsAreLevelled_iff : ItemsAreLevelled items ↔ ∀ i ∈ items, AreLevelled i := by
  induction items with
  | nil => simp [ItemsAreLevelled]
  | cons i items ih => simp [ItemsAreLevelled, ih]

theorem areLevelled_reverse : AreLevelled bs.reverse ↔ AreLevelled bs := by
  simp only [areLevelled_iff, List.mem_reverse]

theorem itemsAreLevelled_reverse : ItemsAreLevelled items.reverse ↔ ItemsAreLevelled items := by
  simp only [itemsAreLevelled_iff, List.mem_reverse]

/-! ### Signs of headings -/

theorem level_of_headingSign? {s words : List Char} {n : Nat}
    (h : headingSign? s = some (n, words)) : 1 ≤ n ∧ n ≤ 6 := by
  unfold headingSign? at h
  obtain ⟨hcond, h⟩ := Option.ite_none_right_eq_some.mp h
  cases h
  simp only [Bool.and_eq_true, decide_eq_true_eq] at hcond
  exact hcond.1

theorem level_of_underline? {s : List Char} {n : Nat} (h : underline? s = some n) :
    1 ≤ n ∧ n ≤ 6 := by
  unfold underline? at h
  split at h
  · obtain ⟨-, h⟩ := Option.ite_none_right_eq_some.mp h
    obtain ⟨-, h⟩ := Option.ite_none_right_eq_some.mp h
    cases h
    split <;> decide
  · cases h

theorem level_of_continuation {stack : List Container} {l : Line} {rest : List Line} {n : Nat}
    (h : continuation stack l rest = .underline n) : 1 ≤ n ∧ n ≤ 6 := by
  unfold continuation at h
  dsimp only at h
  split at h
  · split at h <;> cases h
  · split at h
    · rename_i hunderline
      cases h
      obtain ⟨-, hunderline⟩ := Option.ite_none_right_eq_some.mp hunderline
      exact level_of_underline? hunderline
    · split at h
      · cases h
      · split at h <;> cases h

theorem level_of_paragraphLines {stack : List Container} {ls : List Line} {n : Nat}
    (h : (paragraphLines stack ls).2.1 = some n) : 1 ≤ n ∧ n ≤ 6 := by
  induction ls with
  | nil => cases h
  | cons l rest ih =>
    rw [paragraphLines] at h
    split at h
    · exact ih h
    · rename_i hunderline
      cases h
      exact level_of_continuation hunderline
    · cases h

/-! ### Outlines -/

/-- Every heading in a container has one of the six levels. -/
def Container.IsLevelled : Container → Prop
  | .quote done | .item _ done => AreLevelled done
  | .list _ _ _ items => ItemsAreLevelled items

namespace Outline

/-- **Every heading of an outline has one of the six levels.** -/
structure IsLevelled (o : Outline) : Prop where
  stack : ∀ k ∈ o.stack, k.IsLevelled
  done : AreLevelled o.done

variable {o : Outline}

theorem IsLevelled.add (h : o.IsLevelled) (hb : b.IsLevelled) : (o.add b).IsLevelled := by
  obtain ⟨hstack, hdone⟩ := h
  unfold Outline.add
  -- into a quotation, into an item, straight into a list, or behind all that is closed
  split <;> rename_i hs <;> rw [hs] at hstack
  · rw [List.forall_mem_cons] at hstack
    exact ⟨List.forall_mem_cons.mpr ⟨⟨hb, hstack.1⟩, hstack.2⟩, hdone⟩
  · rw [List.forall_mem_cons] at hstack
    exact ⟨List.forall_mem_cons.mpr ⟨⟨hb, hstack.1⟩, hstack.2⟩, hdone⟩
  · rw [List.forall_mem_cons] at hstack
    exact ⟨List.forall_mem_cons.mpr ⟨⟨⟨hb, trivial⟩, hstack.1⟩, hstack.2⟩, hdone⟩
  · exact ⟨hs ▸ nofun, hb, hdone⟩

theorem IsLevelled.foldl_add (h : o.IsLevelled) {done : List Sketch} (hdone : AreLevelled done) :
    (done.foldl Outline.add o).IsLevelled := by
  induction done generalizing o with
  | nil => exact h
  | cons b done ih => exact ih (h.add hdone.1) hdone.2

theorem IsLevelled.close (h : o.IsLevelled) : o.close.IsLevelled := by
  obtain ⟨hstack, hdone⟩ := h
  unfold Outline.close
  split <;> rename_i hs
  · rw [hs, List.forall_mem_cons] at hstack
    exact add ⟨hstack.2, hdone⟩ (areLevelled_reverse.mpr hstack.1)
  · rw [hs, List.forall_mem_cons, List.forall_mem_cons] at hstack
    obtain ⟨hitem, hitems, hrest⟩ := hstack
    exact ⟨List.forall_mem_cons.mpr ⟨⟨areLevelled_reverse.mpr hitem, hitems⟩, hrest⟩, hdone⟩
  · rw [hs, List.forall_mem_cons] at hstack
    refine foldl_add ?_ (areLevelled_reverse.mpr hstack.1)
    exact ⟨hstack.2, hdone⟩
  · rw [hs, List.forall_mem_cons] at hstack
    exact add ⟨hstack.2, hdone⟩ (itemsAreLevelled_reverse.mpr hstack.1)
  · exact ⟨hstack, hdone⟩

theorem IsLevelled.closeMany (h : o.IsLevelled) (n : Nat) : (o.closeMany n).IsLevelled := by
  induction n generalizing o with
  | zero => exact h
  | succ n ih => exact ih h.close

theorem IsLevelled.closeBareItem (h : o.IsLevelled) : o.closeBareItem.IsLevelled := by
  have h' : ({ o with bareItem := false } : Outline).IsLevelled := ⟨h.stack, h.done⟩
  unfold Outline.closeBareItem
  dsimp only
  split
  · split
    · exact h'.close
    · exact h'
  · exact h'

theorem IsLevelled.loosen (h : o.IsLevelled) : o.loosen.IsLevelled := by
  unfold Outline.loosen
  split
  · exact h
  · split
    · rename_i hs
      have hstack := h.stack
      rw [hs, List.forall_mem_cons, List.forall_mem_cons] at hstack
      exact ⟨List.forall_mem_cons.mpr ⟨hstack.1, List.forall_mem_cons.mpr hstack.2⟩, h.done⟩
    · exact ⟨h.stack, h.done⟩

theorem IsLevelled.endList (h : o.IsLevelled) : o.endList.IsLevelled := by
  unfold Outline.endList
  dsimp only
  split
  · exact h.closeBareItem.close.loosen
  · exact h.closeBareItem.loosen

theorem IsLevelled.goOnList (h : o.IsLevelled) (sign : ItemSign) :
    (o.goOnList sign).IsLevelled := by
  have hfresh : ∀ o : Outline, o.IsLevelled →
      ({ o with
        stack := .list sign.mark sign.start true [] :: o.stack
        blankBefore := false } : Outline).IsLevelled :=
    fun o h => ⟨List.forall_mem_cons.mpr ⟨trivial, h.stack⟩, h.done⟩
  have hbare := h.closeBareItem
  unfold Outline.goOnList
  dsimp only
  split
  · rename_i hs
    split
    · have hstack := hbare.stack
      rw [hs, List.forall_mem_cons] at hstack
      exact ⟨List.forall_mem_cons.mpr hstack, hbare.done⟩
    · exact hfresh _ hbare.endList
  · exact hfresh _ hbare.endList

theorem IsLevelled.openAll (h : o.IsLevelled) (fuel : Nat) (c : Cursor) :
    (Outline.openAll fuel o c).1.IsLevelled := by
  induction fuel generalizing o c with
  | zero => exact h
  | succ fuel ih =>
    rw [Outline.openAll]
    dsimp only
    split
    · exact h
    · split
      · rename_i sign indent behind _
        have hitem : ({ o.goOnList sign with
            stack := .item indent [] :: (o.goOnList sign).stack } : Outline).IsLevelled :=
          ⟨List.forall_mem_cons.mpr ⟨trivial, (h.goOnList sign).stack⟩, (h.goOnList sign).done⟩
        split
        · exact ⟨hitem.stack, hitem.done⟩
        · exact ih hitem behind
      · split
        · refine ih ?_ _
          exact ⟨List.forall_mem_cons.mpr ⟨trivial, h.endList.stack⟩, h.endList.done⟩
        · exact h

theorem IsLevelled.blank (h : o.IsLevelled) : o.blank.IsLevelled := by
  unfold Outline.blank
  split
  · exact h
  · rename_i hs
    have hstack := h.stack
    rw [hs, List.forall_mem_cons] at hstack
    exact ⟨List.forall_mem_cons.mpr hstack, h.done⟩
  · exact ⟨h.stack, h.done⟩

theorem IsLevelled.readWords (h : o.IsLevelled) (s : List Char) (rest : List Line) :
    (o.readWords s rest).1.IsLevelled := by
  unfold Outline.readWords
  split
  · exact ⟨h.stack, h.done⟩
  · split
    · exact h.add trivial
    · dsimp only
      refine h.add ?_
      split
      · rename_i hlevel
        exact level_of_paragraphLines hlevel
      · trivial

theorem IsLevelled.readBlock (h : o.IsLevelled) (c : Cursor) (l : Line) (rest : List Line) :
    (o.readBlock c l rest).1.IsLevelled := by
  have hend := h.endList
  unfold Outline.readBlock
  dsimp only
  split
  · exact add ⟨hend.stack, hend.done⟩ trivial
  · split
    · exact hend.add trivial
    · split_ifs
      · exact hend.add trivial
      · exact hend.add trivial
      · -- a sign in front makes a heading here; a line underneath is found with the words
        split
        · rename_i hsign
          exact hend.add (level_of_headingSign? hsign)
        · exact hend.add trivial
        · exact hend.readWords _ rest

theorem IsLevelled.readLine (h : o.IsLevelled) (l : Line) (rest : List Line) :
    (o.readLine l rest).1.IsLevelled := by
  unfold Outline.readLine
  dsimp only
  have hopen := (h.closeMany (passStack o.stack l).1).openAll (l.chars.length + 1)
    (passStack o.stack l).2
  split
  · rename_i hnone
    rw [hnone] at hopen
    exact hopen
  · rename_i hsome
    rw [hsome] at hopen
    split
    · exact hopen.blank
    · exact hopen.readBlock _ l rest

/-- **Every heading that is read has one of the six levels.** -/
theorem IsLevelled.readLines (h : o.IsLevelled) (fuel : Nat) (ls : List Line) :
    (o.readLines fuel ls).IsLevelled := by
  induction fuel generalizing o ls with
  | zero => exact h
  | succ fuel ih =>
    cases ls with
    | nil => exact h
    | cons l rest => exact ih (h.readLine l rest) _

theorem IsLevelled.finish (h : o.IsLevelled) : AreLevelled o.finish :=
  areLevelled_reverse.mpr (h.closeMany o.stack.length).done

end Outline

/-! ### Texts -/

mutual

/-- To read the words of a block leaves its headings alone. -/
theorem isLevelled_readWords (lookup : List Char → Option Target) :
    ∀ b : Sketch, b.IsLevelled → (readWords lookup b).IsLevelled
  | .heading _ _, h => h
  | .quote bs, h => areLevelled_readWordsAll lookup bs h
  | .list _ _ items, h => itemsAreLevelled_readWordsItems lookup items h
  | .paragraph _, _ | .rule, _ | .code _ _, _ | .raw _, _ | .table _ _ _, _ => trivial

theorem areLevelled_readWordsAll (lookup : List Char → Option Target) :
    ∀ bs : List Sketch, AreLevelled bs → AreLevelled (readWordsAll lookup bs)
  | [], _ => trivial
  | b :: bs, h => ⟨isLevelled_readWords lookup b h.1, areLevelled_readWordsAll lookup bs h.2⟩

theorem itemsAreLevelled_readWordsItems (lookup : List Char → Option Target) :
    ∀ items : List (List Sketch), ItemsAreLevelled items →
      ItemsAreLevelled (readWordsItems lookup items)
  | [], _ => trivial
  | i :: is, h =>
    ⟨areLevelled_readWordsAll lookup i h.1, itemsAreLevelled_readWordsItems lookup is h.2⟩

end

/-- **Every heading of a text has one of the six levels.** -/
theorem areLevelled_blocksOf (text : List Char) : AreLevelled (blocksOf text) := by
  have hempty : Outline.empty.IsLevelled := ⟨nofun, trivial⟩
  exact areLevelled_readWordsAll _ _ (hempty.readLines _ _).finish

end Parley.Markdown
