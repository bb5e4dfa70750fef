import Parley.Json.Printer
import Parley.Proofs.Json.Fields
import Parley.Proofs.Json.Grammar
import Parley.Proofs.Text.Decimal

/-!
# What is printed is the text of what was printed

A value can be printed on one line or over several, and the difference is in blanks alone. Either way
the text says the value again: a string is escaped character by character, and each character is read
back from its escape (`Parley.Json.chars_escape`); a whole number of 64 bits is what its digits come to
(`Parley.Json.exists_signed_decimalInt`). So a value is read from its own text as long as it is made of
such things and not nested too deeply (`Parley.Json.Value.IsPrintable`,
`Parley.Json.Value.IsPrintable.nested_chars`, `Parley.Json.Value.IsPrintable.nested_indentedChars`), and
a record whose fields are printable has the text of an object with these fields, in the order in which
they are listed (`Parley.Json.isObject_render`, `Parley.Json.isObject_indented`).

Nothing that is printed on one line is a control character, so there is no end of a line in it
(`Parley.Json.Value.isLegible_chars`).
-/

namespace Parley.Json

open Numeral

variable {s t : List Char} {c : Char} {cs : List Char}

/-! ### Strings -/

/-- Two zeros and two hexadecimal digits stand for a control character. -/
theorem hexUnit?_hexDigit : ∀ n < 0x20,
    hexUnit? '0' '0' (Text.hexDigit (n / 16)) (Text.hexDigit n) = some n ∧
      isLeadingSurrogate n = false ∧ isTrailingSurrogate n = false := by
  decide

theorem eq_ofNat_of_toNat {n : Nat} (h : c.toNat = n) : c = Char.ofNat n := by
  rw [← h, Char.ofNat_toNat]

/-- **A character is read back from its escape.** -/
theorem chars_escape (h : Chars s cs t) : Chars (escape c ++ s) (c :: cs) t := by
  unfold escape
  split_ifs with hquote hescape h8 hC hn hr ht hcontrol
  · subst hquote
    exact .short rfl h
  · subst hescape
    exact .short rfl h
  · rw [eq_ofNat_of_toNat h8]
    exact .short rfl h
  · rw [eq_ofNat_of_toNat hC]
    exact .short rfl h
  · subst hn
    exact .short rfl h
  · subst hr
    exact .short rfl h
  · subst ht
    exact .short rfl h
  · obtain ⟨hunit, hleading, htrailing⟩ := hexUnit?_hexDigit c.toNat hcontrol
    have hchars := Chars.unit hunit hleading htrailing h
    rwa [Char.ofNat_toNat] at hchars
  · exact .plain hquote hescape (Nat.le_of_not_lt hcontrol) h

theorem chars_flatMap_escape (cs t : List Char) : Chars (cs.flatMap escape ++ '"' :: t) cs t := by
  induction cs with
  | nil => exact .close
  | cons c cs ih =>
    rw [List.flatMap_cons, List.append_assoc]
    exact chars_escape ih

/-- **A string is read back from its escapes.** -/
theorem chars_quoted (x : String) (t : List Char) :
    ∃ s, quoted x ++ t = '"' :: s ∧ Chars s x.toList t := by
  refine ⟨x.toList.flatMap escape ++ '"' :: t, ?_, chars_flatMap_escape _ t⟩
  simp [quoted]

/-! ### Whole numbers -/

/-- The digits of a number begin with a zero only if there is no other digit. -/
theorem whole_decimal (n : Nat) (t : List Char) :
    Whole (Text.decimal n ++ t) (Text.decimal n) t := by
  have hne : Text.decimal n ≠ [] := Nat.toDigits_ne_nil
  have hdigits : Digits (Text.decimal n ++ t) (Text.decimal n) t :=
    ⟨rfl, hne, fun _ => Text.isDigit_of_mem_decimal⟩
  have hvalue := Text.digitsValue_decimal n
  have hlength : ∀ k, 0 < k → ((Text.decimal n).length ≤ k ↔ n < 10 ^ k) :=
    fun k hk => Nat.length_toDigits_le_iff (by decide) hk
  generalize Text.decimal n = ds at *
  cases ds with
  | nil => exact absurd rfl hne
  | cons d ds =>
    by_cases hd : d = '0'
    · subst hd
      cases ds with
      | nil => exact .zero
      | cons d' ds =>
        -- with a zero in front, the digits behind it would be enough
        have hlt : n < 10 ^ (d' :: ds).length := by
          have hzero := Text.digitsValue_replicate_append 1 (d' :: ds)
          rw [List.replicate_one, List.singleton_append, hvalue] at hzero
          rw [hzero]
          exact Text.digitsValue_lt _
        have hle := (hlength _ (Nat.succ_pos ds.length)).mpr hlt
        exact absurd hle (Nat.not_succ_le_self _)
    · exact .digits hd hdigits

theorem le_foldl_digits (ds : List Char) (n : Nat) :
    n ≤ ds.foldl (fun n c => n * 10 + Text.digitValue c) n := by
  induction ds generalizing n with
  | nil => exact Nat.le_refl _
  | cons d ds ih =>
    have hle : n ≤ n * 10 + Text.digitValue d := by omega
    exact Nat.le_trans hle (ih _)

/-- All digits of a number of 64 bits are collected. -/
theorem collect_eq (ds : List Char) (n : Nat)
    (h : ds.foldl (fun n c => n * 10 + Text.digitValue c) n < Nat.pow 2 64) :
    collect n ds = (ds.foldl (fun n c => n * 10 + Text.digitValue c) n, []) := by
  induction ds generalizing n with
  | nil => rfl
  | cons d ds ih =>
    have hnext := Nat.lt_of_le_of_lt (le_foldl_digits ds _) h
    rw [collect, if_pos hnext]
    exact ih _ h

theorem collect_decimal {n : Nat} (h : n < Nat.pow 2 64) : collect 0 (Text.decimal n) = (n, []) := by
  have hvalue := Text.digitsValue_decimal n
  rw [Text.digitsValue] at hvalue
  rw [collect_eq _ _ (by rwa [hvalue]), hvalue]

/-- **A whole number of 64 bits**, with a sign or without. -/
def IsWide (i : Int) : Prop := -(Nat.pow 2 63 : Nat) ≤ i ∧ i < (Nat.pow 2 64 : Nat)

/-- **A whole number is read back from its digits.** -/
theorem exists_signed_decimalInt {i : Int} (h : IsWide i) (t : List Char) :
    ∃ d, Signed (Text.decimalInt i ++ t) d t ∧ d.number? = some (.integer i) := by
  obtain ⟨hleast, hlast⟩ := h
  have h63 : Nat.pow 2 63 = 9223372036854775808 := rfl
  have h64 : Nat.pow 2 64 = 18446744073709551616 := rfl
  obtain ⟨n, hn⟩ : ∃ n, i.natAbs = n := ⟨_, rfl⟩
  have hcollect : collect 0 (Text.decimal n) = (n, []) := collect_decimal (by omega)
  have hunsigned : ∀ negative, Unsigned negative (Text.decimal n ++ t)
      ⟨negative, Text.decimal n, [], none⟩ t := fun _ => ⟨whole_decimal n t, .none, .none⟩
  rw [Text.decimalInt, hn]
  split
  · rename_i hneg
    refine ⟨_, .minus (hunsigned true), ?_⟩
    have hne : n ≠ 0 := by omega
    have hle : ¬ Nat.pow 2 63 < n := by omega
    have hi : -(n : Int) = i := by omega
    simp [Decimal.number?, hcollect, completed?, hne, hle, hi]
  · refine ⟨_, .plain (hunsigned false), ?_⟩
    have hi : (n : Int) = i := by omega
    simp [Decimal.number?, hcollect, completed?, hi]

/-! ### Lists -/

section Lists

variable {α : Type} {bracket : Char} {G : Phrase α} {write : α → List Char} {gap last : List Char}
  {x : α} {xs : List α}

/-- Things that are written one after the other, with a comma before each of them. -/
theorem listed_of_flatMap (hgap : ∀ s, Blanks (gap ++ s) s) (hlast : ∀ s, Blanks (last ++ s) s)
    (h : ∀ x ∈ xs, ∀ t, G (write x ++ t) x t) (t : List Char) :
    Listed bracket G false
      (xs.flatMap (fun x => ',' :: (gap ++ write x)) ++ (last ++ bracket :: t)) xs t := by
  induction xs with
  | nil => exact .close (hlast _)
  | cons x xs ih =>
    rw [List.forall_mem_cons] at h
    rw [List.flatMap_cons, List.append_assoc, List.cons_append, List.append_assoc]
    exact .cons (.comma .nil (hgap _)) (h.1 _) (ih h.2)

/-- So they are if there is no comma before the first of them. -/
theorem listed_of_cons_flatMap (hgap : ∀ s, Blanks (gap ++ s) s)
    (hlast : ∀ s, Blanks (last ++ s) s) (h : ∀ y ∈ x :: xs, ∀ t, G (write y ++ t) y t)
    (t : List Char) : Listed bracket G true (gap ++ (write x ++
      (xs.flatMap (fun x => ',' :: (gap ++ write x)) ++ (last ++ bracket :: t)))) (x :: xs) t := by
  rw [List.forall_mem_cons] at h
  exact .cons (.first (hgap _)) (h.1 _) (listed_of_flatMap hgap hlast h.2 t)

end Lists

/-- A line break and the spaces behind it are blanks. -/
theorem blanks_newline (depth : Nat) (s : List Char) : Blanks (Value.newline depth ++ s) s := by
  refine .cons rfl ?_
  induction 2 * depth with
  | zero => exact .nil
  | succ k ih => exact .cons rfl ih

namespace Value

/-- A field with its key in quotation marks. -/
theorem keyAndValue_quoted {G : Phrase Value} {write : Value → List Char} {f : String × Value}
    {blanks : List Char} (hblanks : ∀ s, Blanks (blanks ++ s) s) (h : ∀ t, G (write f.2 ++ t) f.2 t)
    (t : List Char) :
    KeyAndValue G ((quoted f.1 ++ ':' :: (blanks ++ write f.2)) ++ t) f t := by
  obtain ⟨s, hs, hkey⟩ := chars_quoted f.1 (':' :: (blanks ++ (write f.2 ++ t)))
  rw [List.append_assoc, List.cons_append, List.append_assoc, hs]
  exact .mk hkey .nil ⟨_, hblanks _, h t⟩

theorem itemsChars_eq (xs : List Value) :
    itemsChars xs = xs.flatMap (fun x => ',' :: x.chars) ++ [']'] := by
  induction xs with
  | nil => simp [itemsChars]
  | cons x xs ih => simp [itemsChars, ih]

theorem fieldsChars_eq (fs : List (String × Value)) : fieldsChars fs =
    fs.flatMap (fun f => ',' :: (quoted f.1 ++ ':' :: f.2.chars)) ++ ['\x7d'] := by
  induction fs with
  | nil => simp [fieldsChars]
  | cons f fs ih => simp [fieldsChars, ih]

theorem indentedItems_eq (depth : Nat) (xs : List Value) : indentedItems depth xs =
    xs.flatMap (fun x => ',' :: (newline (depth + 1) ++ x.indentedChars (depth + 1))) ++
      (newline depth ++ [']']) := by
  induction xs with
  | nil => simp [indentedItems]
  | cons x xs ih => simp [indentedItems, ih]

theorem indentedFields_eq (depth : Nat) (fs : List (String × Value)) : indentedFields depth fs =
    fs.flatMap (fun f => ',' :: (newline (depth + 1) ++
      (quoted f.1 ++ ':' :: ' ' :: f.2.indentedChars (depth + 1)))) ++
      (newline depth ++ ['\x7d']) := by
  induction fs with
  | nil => simp [indentedFields]
  | cons f fs ih => simp [indentedFields, ih]

/-- **A value is printable** inside of so many arrays and objects: its numbers are whole and of 64
bits, and the fields of an object in it are in the order of their keys. -/
inductive IsPrintable : Nat → Value → Prop
  | null {room : Nat} : IsPrintable room .null
  | bool {room : Nat} (b : Bool) : IsPrintable room (.bool b)
  | integer {room : Nat} {i : Int} (h : IsWide i) : IsPrintable room (.number (.integer i))
  | string {room : Nat} (x : String) : IsPrintable room (.string x)
  | array {room : Nat} {items : List Value} (h : ∀ v ∈ items, IsPrintable room v) :
      IsPrintable (room + 1) (.array items)
  | object {room : Nat} {fs : List (String × Value)} (hkeys : KeysIncrease fs)
      (h : ∀ f ∈ fs, IsPrintable room f.2) : IsPrintable (room + 1) (.object fs)

section Printed

variable {room : Nat} {v : Value} {items : List Value} {fs : List (String × Value)}

theorem blanks_nil (s : List Char) : Blanks ([] ++ s) s := .nil

/-! #### On one line -/

theorem listed_items (h : ∀ v ∈ items, ∀ t, Nested room (v.chars ++ t) v t) (t : List Char) :
    ∃ s, (array items).chars ++ t = '[' :: s ∧ Listed ']' (Nested room) true s items t := by
  cases items with
  | nil => exact ⟨']' :: t, by simp [chars], .close .nil⟩
  | cons x xs =>
    refine ⟨_, ?_, listed_of_cons_flatMap blanks_nil blanks_nil h t⟩
    simp [chars, itemsChars_eq]

theorem listed_fields (h : ∀ f ∈ fs, ∀ t, Nested room (f.2.chars ++ t) f.2 t) (t : List Char) :
    ∃ s, (object fs).chars ++ t = '\x7b' :: s ∧
      Listed '\x7d' (KeyAndValue (Nested room)) true s fs t := by
  cases fs with
  | nil => exact ⟨'\x7d' :: t, by simp [chars], .close .nil⟩
  | cons f fs =>
    have hfields := fun g hg t => keyAndValue_quoted blanks_nil (h g hg) t
    refine ⟨_, ?_, listed_of_cons_flatMap blanks_nil blanks_nil hfields t⟩
    simp [chars, fieldsChars_eq]

/-- **A printable value is read from the line that it is printed on.** -/
theorem IsPrintable.nested_chars (h : IsPrintable room v) (t : List Char) :
    Nested room (v.chars ++ t) v t := by
  induction h generalizing t with
  | null => exact .null
  | bool b =>
    cases b with
    | true => exact .true
    | false => exact .false
  | integer h =>
    obtain ⟨d, hd, hnumber⟩ := exists_signed_decimalInt h t
    exact .number hd hnumber
  | string x =>
    obtain ⟨s, hs, hchars⟩ := chars_quoted x t
    rw [chars, hs]
    exact .string hchars
  | array _ ih =>
    obtain ⟨s, hs, hlisted⟩ := listed_items ih t
    rw [hs]
    exact .array rfl hlisted
  | object hkeys _ ih =>
    obtain ⟨s, hs, hlisted⟩ := listed_fields ih t
    have hobject : Nested (_ + 1) _ (Value.object (sortFields _)) t := .object rfl hlisted
    rw [sortFields_of_keysIncrease hkeys] at hobject
    rw [hs]
    exact hobject

/-! #### Over several lines -/

theorem listed_indentedItems {depth : Nat}
    (h : ∀ v ∈ items, ∀ t, Nested room (v.indentedChars (depth + 1) ++ t) v t) (t : List Char) :
    ∃ s, (array items).indentedChars depth ++ t = '[' :: s ∧
      Listed ']' (Nested room) true s items t := by
  cases items with
  | nil => exact ⟨']' :: t, by simp [indentedChars, chars], .close .nil⟩
  | cons x xs =>
    refine ⟨_, ?_, listed_of_cons_flatMap (blanks_newline (depth + 1)) (blanks_newline depth) h t⟩
    simp [indentedChars, indentedItems_eq]

theorem listed_indentedFields {depth : Nat}
    (h : ∀ f ∈ fs, ∀ t, Nested room (f.2.indentedChars (depth + 1) ++ t) f.2 t) (t : List Char) :
    ∃ s, (object fs).indentedChars depth ++ t = '\x7b' :: s ∧
      Listed '\x7d' (KeyAndValue (Nested room)) true s fs t := by
  cases fs with
  | nil => exact ⟨'\x7d' :: t, by simp [indentedChars, chars], .close .nil⟩
  | cons f fs =>
    have hspace : ∀ s, Blanks ([' '] ++ s) s := fun s => .cons rfl .nil
    have hfields := fun g hg t => keyAndValue_quoted hspace (h g hg) t
    refine ⟨_, ?_, listed_of_cons_flatMap (blanks_newline (depth + 1)) (blanks_newline depth) hfields t⟩
    simp [indentedChars, indentedFields_eq]

/-- **A printable value is read from the lines that it is printed on.** -/
theorem IsPrintable.nested_indentedChars (h : IsPrintable room v) (depth : Nat) (t : List Char) :
    Nested room (v.indentedChars depth ++ t) v t := by
  induction h generalizing depth t with
  | array _ ih =>
    obtain ⟨s, hs, hlisted⟩ := listed_indentedItems (fun v hv => ih v hv (depth + 1)) t
    rw [hs]
    exact .array rfl hlisted
  | object hkeys _ ih =>
    obtain ⟨s, hs, hlisted⟩ := listed_indentedFields (fun f hf => ih f hf (depth + 1)) t
    have hobject : Nested (_ + 1) _ (Value.object (sortFields _)) t := .object rfl hlisted
    rw [sortFields_of_keysIncrease hkeys] at hobject
    rw [hs]
    exact hobject
  | null => exact IsPrintable.null.nested_chars t
  | bool b => exact (IsPrintable.bool b).nested_chars t
  | integer h => exact (IsPrintable.integer h).nested_chars t
  | string x => exact (IsPrintable.string x).nested_chars t

end Printed

end Value

/-! ### Records -/

section Records

variable {room : Nat} {fs : List (String × Value)} (h : ∀ f ∈ fs, f.2.IsPrintable room)

include h

/-- **A record of printable fields is printed as an object with these fields.** -/
theorem isObject_render : IsObject (room + 1) (Value.object fs).render fs := by
  obtain ⟨s, hs, hlisted⟩ := Value.listed_fields (fun f hf => (h f hf).nested_chars) []
  refine ⟨_, s, [], rfl, ?_, hlisted, .nil⟩
  rw [Value.render, String.toList_ofList, ← List.append_nil (Value.chars _), hs]
  exact .nil

/-- So it is over several lines. -/
theorem isObject_indented : IsObject (room + 1) (Value.object fs).indented fs := by
  obtain ⟨s, hs, hlisted⟩ :=
    Value.listed_indentedFields (fun f hf => (h f hf).nested_indentedChars 1) []
  refine ⟨_, s, [], rfl, ?_, hlisted, .nil⟩
  rw [Value.indented, String.toList_ofList, ← List.append_nil (Value.indentedChars _ _), hs]
  exact .nil

end Records

/-! ### No control characters -/

/-- There is no control character in a text. -/
def IsLegible (cs : List Char) : Prop := ∀ c ∈ cs, 0x20 ≤ c.toNat

theorem isLegible_append {cs ds : List Char} :
    IsLegible (cs ++ ds) ↔ IsLegible cs ∧ IsLegible ds := List.forall_mem_append

theorem isLegible_cons : IsLegible (c :: cs) ↔ 0x20 ≤ c.toNat ∧ IsLegible cs := List.forall_mem_cons

/-- No line ends in a text without control characters. -/
theorem IsLegible.newline_not_mem (h : IsLegible cs) : '\n' ∉ cs :=
  fun hmem => absurd (h '\n' hmem) (by decide)

theorem isLegible_of_isDigit (h : ∀ c ∈ cs, Text.isDigit c = true) : IsLegible cs := by
  intro c hc
  have hdigit := h c hc
  simp only [Text.isDigit, Bool.and_eq_true, decide_eq_true_eq] at hdigit
  have hle : '0'.toNat ≤ c.toNat := hdigit.1
  have h0 : '0'.toNat = 48 := rfl
  omega

theorem isLegible_decimal (n : Nat) : IsLegible (Text.decimal n) :=
  isLegible_of_isDigit fun _ => Text.isDigit_of_mem_decimal

theorem isLegible_replicate {n : Nat} (h : 0x20 ≤ c.toNat) : IsLegible (List.replicate n c) :=
  fun _ hmem => List.eq_of_mem_replicate hmem ▸ h

theorem isLegible_zeroPadded (width n : Nat) : IsLegible (Text.zeroPadded width n) :=
  isLegible_append.mpr ⟨isLegible_replicate (by decide), isLegible_decimal n⟩

theorem isLegible_take (h : IsLegible cs) (n : Nat) : IsLegible (cs.take n) :=
  fun c hc => h c (List.mem_of_mem_take hc)

theorem isLegible_drop (h : IsLegible cs) (n : Nat) : IsLegible (cs.drop n) :=
  fun c hc => h c (List.mem_of_mem_drop hc)

theorem isLegible_decimalInt (i : Int) : IsLegible (Text.decimalInt i) := by
  unfold Text.decimalInt
  split
  · exact isLegible_cons.mpr ⟨by decide, isLegible_decimal _⟩
  · exact isLegible_decimal _

theorem le_toNat_hexDigit (n : Nat) : 0x20 ≤ (Text.hexDigit n).toNat := by
  have h : ∀ n < 16, 0x20 ≤ (Nat.digitChar n).toNat := by decide
  exact h _ (Nat.mod_lt _ (by decide))

theorem isLegible_escape (c : Char) : IsLegible (escape c) := by
  unfold escape
  split_ifs
  iterate 7 · simp [IsLegible]
  · simp [le_toNat_hexDigit, IsLegible]
  · simpa [IsLegible] using ‹¬ c.toNat < 0x20›

theorem isLegible_quoted (x : String) : IsLegible (quoted x) := by
  have hmark : IsLegible ['"'] := by simp [IsLegible]
  refine isLegible_cons.mpr ⟨by decide, isLegible_append.mpr ⟨?_, hmark⟩⟩
  intro c hc
  obtain ⟨d, -, hd⟩ := List.mem_flatMap.mp hc
  exact isLegible_escape d c hd

theorem isLegible_writeDecimal (d : Numeral.Decimal) : IsLegible (writeDecimal d) := by
  have hdigits := isLegible_decimal d.digits
  have htake := isLegible_take hdigits
  have hdrop := isLegible_drop hdigits
  have hzeros : ∀ k, IsLegible (List.replicate k '0') := fun _ => isLegible_replicate (by decide)
  have hnil : IsLegible [] := List.forall_mem_nil _
  simp only [writeDecimal]
  split_ifs <;>
    simp [-List.drop_one, isLegible_append, isLegible_cons, hdigits, htake, hdrop, hzeros, hnil,
      isLegible_decimal]

theorem isLegible_writeReal (x : Binary64) : IsLegible (writeReal x) := by
  have hzero : IsLegible ['0', '.', '0'] := by simp [IsLegible]
  unfold writeReal
  split_ifs <;> simp [isLegible_cons, isLegible_writeDecimal, hzero]

theorem Number.isLegible_chars (n : Number) : IsLegible n.chars := by
  cases n with
  | integer i => exact isLegible_decimalInt i
  | real x => exact isLegible_writeReal x

namespace Value

mutual

/-- **There is no control character in a value that is printed on one line.** -/
theorem isLegible_chars : ∀ v : Value, IsLegible v.chars
  | .null => by simp [chars, IsLegible]
  | .bool true => by simp [chars, IsLegible]
  | .bool false => by simp [chars, IsLegible]
  | .number n => n.isLegible_chars
  | .string s => isLegible_quoted s
  | .array [] => by simp [chars, IsLegible]
  | .array (x :: xs) => by
    simp [chars, isLegible_cons, isLegible_append, isLegible_chars x, isLegible_itemsChars xs]
  | .object [] => by simp [chars, IsLegible]
  | .object ((k, v) :: fs) => by
    simp [chars, isLegible_cons, isLegible_append, isLegible_quoted, isLegible_chars v,
      isLegible_fieldsChars fs]

theorem isLegible_itemsChars : ∀ xs : List Value, IsLegible (itemsChars xs)
  | [] => by simp [itemsChars, IsLegible]
  | x :: xs => by
    simp [itemsChars, isLegible_cons, isLegible_append, isLegible_chars x, isLegible_itemsChars xs]

theorem isLegible_fieldsChars : ∀ fs : List (String × Value), IsLegible (fieldsChars fs)
  | [] => by simp [fieldsChars, IsLegible]
  | (k, v) :: fs => by
    simp [fieldsChars, isLegible_cons, isLegible_append, isLegible_quoted, isLegible_chars v,
      isLegible_fieldsChars fs]

end

end Value

end Parley.Json
