import Parley.Proofs.Numeral.Whole
import Parley.Proofs.Text.Blank
import Parley.Settings.Basic

/-!
# Which settings an environment makes

Five of the nine settings are numbers, and a number may be misread. The first variable that is, in
a fixed order (`Parley.Settings.numerals`), is all that is told then. If none is, the settings are
those of `Parley.Settings.byVariables`, where every one is made of what its own variable holds and
of nothing else.

There are three ways to leave a setting open. A variable may be missing, and then the setting has
its standard value; a blank one counts as missing, except for the two settings that a blank variable
switches off. The order in which the numbers are read only shows if two of them are misread, so it
is kept apart from the values (`Parley.Settings.numberAt_eq`, `Parley.Settings.ofEnvironment_eq`).
-/

namespace Parley.Settings

open Numeral Text Time

variable {env : Environment} {name text platformDir : String} {r : Range} {x : String × Range}
  {f : Failure} {why : Misreading} {s : Settings}

/-! ### What variables hold -/

/-- **A variable holds a text**: there is something in it besides blanks, and that is the text, with
the blanks at the ends left out. -/
def Holds (env : Environment) (name text : String) : Prop :=
  ∃ v, env.get? name = some v ∧ isBlankText v = false ∧ trim v = text

theorem textAt_eq_some : textAt env name = some text ↔ Holds env name text := by
  simp only [textAt, Option.bind_eq_some_iff, Holds]
  refine exists_congr fun v => and_congr_right fun _ => ?_
  have hempty : (trim v).isEmpty = true ↔ isBlankText v = true := by
    rw [String.isEmpty_iff, trim_eq_empty_iff]
  unfold unlessEmpty
  cases hblank : isBlankText v with
  | true => simp [hempty.mpr hblank]
  | false =>
    have hne : (trim v).isEmpty = false := by
      rw [← Bool.not_eq_true, hempty, hblank]
      exact Bool.false_ne_true
    simp [hne]

/-- A variable holds one text at most. -/
theorem Holds.unique {text' : String} (h : Holds env name text) (h' : Holds env name text') :
    text = text' :=
  Option.some.inj ((textAt_eq_some.mpr h).symm.trans (textAt_eq_some.mpr h'))

/-- What a setting is for a variable: the standard value if it is missing or blank, and otherwise
what is read from its text. -/
def orStandard {α : Type} (standard : α) (read : String → α) : Option String → α
  | none => standard
  | some v => if isBlankText v then standard else read (trim v)

/-- What a setting is that can be switched off: the standard value if its variable is missing, none
if that is blank, and otherwise what is left of it, unless that is nothing. -/
def orNone (standard : String) (clean : String → String) : Option String → Option String
  | none => some standard
  | some v => if isBlankText v then none else unlessEmpty (clean v)

theorem getD_textAt {α : Type} (standard : α) (read : String → α) :
    ((textAt env name).map read).getD standard = orStandard standard read (env.get? name) := by
  cases h : env.get? name with
  | none =>
    rw [textAt, h]
    rfl
  | some v =>
    cases hblank : isBlankText v with
    | true =>
      have hnone : textAt env name = none := by
        rw [Option.eq_none_iff_forall_ne_some]
        intro t ht
        obtain ⟨w, hw, hne, -⟩ := textAt_eq_some.mp ht
        obtain rfl := Option.some.inj (h.symm.trans hw)
        cases hblank.symm.trans hne
      rw [hnone, orStandard, if_pos hblank]
      rfl
    | false =>
      rw [textAt_eq_some.mpr ⟨v, h, hblank, rfl⟩, orStandard, if_neg (by simp [hblank])]
      rfl

theorem optionalAt_eq {standard : String} {clean : String → String}
    (hclean : ∀ v, isBlankText v = true → clean v = "") :
    optionalAt env name clean (some standard) = orNone standard clean (env.get? name) := by
  unfold optionalAt orNone
  cases env.get? name with
  | none => rfl
  | some v =>
    dsimp only
    split
    · rename_i hblank
      rw [hclean v hblank]
      rfl
    · rfl

/-- Nothing is left of a blank address. -/
theorem trimUrl_of_isBlankText {v : String} (h : isBlankText v = true) : trimUrl v = "" := by
  have hnil : trimChars v.toList = [] := by
    rw [← String.toList_ofList (l := trimChars v.toList), ← trim, trim_eq_empty_iff.mpr h]
    rfl
  rw [trimUrl, hnil]
  rfl

/-! ### Numbers -/

/-- **A text is a whole number of a range**: an optional sign, of which the minus is there only for
ranges with negative numbers, and one or more digits. -/
def Denotes (r : Range) (text : String) (i : Int) : Prop :=
  Spells text.toList i ∧ r.holds i = true ∧ (text.toList.head? = some '-' → r.least < 0)

/-- What a sign and some digits stand for. -/
def numberOf (text : String) : Int :=
  match text.toList with
  | '-' :: ds => -digitsValue ds
  | '+' :: ds => digitsValue ds
  | ds => digitsValue ds

theorem numberOf_of_spells {i : Int} (h : Spells text.toList i) : numberOf text = i := by
  unfold numberOf
  generalize text.toList = cs at h ⊢
  cases h with
  | plus | minus => rfl
  | plain _ hdigits =>
    split
    · exact absurd rfl (head?_ne_of_isDigit hdigits (c := '-') rfl)
    · exact absurd rfl (head?_ne_of_isDigit hdigits (c := '+') rfl)
    · rfl

/-- The variables that hold numbers, in the order in which they are read, each with its range. -/
def numerals : List (String × Range) :=
  [("CHAT_MAX_RETRIES", .word32), ("CHAT_RETRY_BASE_MS", .word64), ("CHAT_TIMEOUT_SECS", .word64),
    ("CHAT_USER_ID", .int64), ("CHAT_HISTORY_LIMIT", .word32)]

theorem holds_zero_of_mem_numerals (hx : x ∈ numerals) : x.2.holds 0 = true := by
  revert x
  decide

/-- **A variable is misread**: it holds a text that is no number of its range. -/
def IsMisread (env : Environment) (x : String × Range) (text : String) : Prop :=
  Holds env x.1 text ∧ ∀ i, ¬ Denotes x.2 text i

/-- What is told of a variable that is misread. -/
def complaint (name text : String) (why : Misreading) : Failure :=
  .settings (name ++ " has invalid value '" ++ text ++ "': " ++ why.message)

/-- What is told of a variable, if it is misread. -/
def complaint? (env : Environment) (x : String × Range) : Option Failure :=
  (textAt env x.1).bind fun text =>
    match readWhole x.2 text.toList with
    | .ok _ => none
    | .error why => some (complaint x.1 text why)

theorem complaint?_eq_some : complaint? env x = some f ↔ ∃ text why, Holds env x.1 text ∧
    readWhole x.2 text.toList = .error why ∧ f = complaint x.1 text why := by
  simp only [complaint?, Option.bind_eq_some_iff, textAt_eq_some]
  refine exists_congr fun text => ?_
  cases readWhole x.2 text.toList with
  | ok i => simp
  | error why => simp [eq_comm]

/-- A text that is not read as a number of a range is none. -/
theorem readWhole_eq_error (hr : r.holds 0 = true) :
    (∃ why, readWhole r text.toList = .error why) ↔ ∀ i, ¬ Denotes r text i := by
  have hok : ∀ i, Denotes r text i ↔ readWhole r text.toList = .ok i :=
    fun i => (readWhole_eq_ok hr).symm
  simp only [hok]
  cases readWhole r text.toList with
  | ok i => simp
  | error why => simp

/-- Nothing is told of a variable exactly if it is not misread. -/
theorem complaint?_eq_none (hr : x.2.holds 0 = true) :
    complaint? env x = none ↔ ∀ text, ¬ IsMisread env x text := by
  constructor
  · rintro hnone text ⟨htext, hnumber⟩
    obtain ⟨why, hwhy⟩ := (readWhole_eq_error hr).mpr hnumber
    have hsome := complaint?_eq_some.mpr ⟨text, why, htext, hwhy, rfl⟩
    cases hnone.symm.trans hsome
  · intro hread
    rw [Option.eq_none_iff_forall_ne_some]
    intro f hf
    obtain ⟨text, why, htext, hwhy, -⟩ := complaint?_eq_some.mp hf
    exact hread text ⟨htext, (readWhole_eq_error hr).mp ⟨why, hwhy⟩⟩

/-- **What a variable makes of a number**: a complaint, or the standard value or the number that it
holds. -/
theorem numberAt_eq (env : Environment) (name : String) (hr : r.holds 0 = true) (standard : Int) :
    numberAt env name r standard = (complaint? env (name, r)).elim
      (.ok (orStandard standard numberOf (env.get? name))) .error := by
  rw [← getD_textAt, numberAt, complaint?]
  cases textAt env name with
  | none => rfl
  | some text =>
    simp only [Option.bind_some, Option.map_some, Option.getD_some]
    cases hread : readWhole r text.toList with
    | error why => rfl
    | ok i =>
      obtain ⟨hspells, -, -⟩ := (readWhole_eq_ok hr).mp hread
      rw [numberOf_of_spells hspells]
      rfl

/-! ### All of them -/

/-- **The settings that the variables of an environment make**, each from one of its own. -/
def byVariables (env : Environment) (platformDir : String) : Settings where
  apiUrl := orStandard "http://localhost:3000/api/v1" trimUrl (env.get? "CHAT_API_URL")
  fallbackUrl := orNone "http://localhost:8008/api/v1" trimUrl (env.get? "CHAT_FALLBACK_URL")
  persona := orNone "transformation_analyst" trim (env.get? "CHAT_PERSONA")
  backoff := ⟨(orStandard 2 numberOf (env.get? "CHAT_MAX_RETRIES")).toNat,
    .ofMillis (orStandard 500 numberOf (env.get? "CHAT_RETRY_BASE_MS")).toNat⟩
  timeout := ⟨(orStandard 30 numberOf (env.get? "CHAT_TIMEOUT_SECS")).toNat, 0⟩
  userId := orStandard 1 numberOf (env.get? "CHAT_USER_ID")
  historyLimit := (orStandard 50 numberOf (env.get? "CHAT_HISTORY_LIMIT")).toNat
  dataDir := orStandard (joinPath platformDir "chatcanvas") id (env.get? "CHAT_DATA_DIR")

section Complaints

variable {α β : Type}

/-- What comes after a complaint is not looked at. -/
theorem elim_bind (o : Option Failure) (a : α) (k : α → Except Failure β) :
    (o.elim (.ok a) .error : Except Failure α) >>= k = o.elim (k a) .error := by
  cases o <;> rfl

theorem elim_eq_error {o : Option Failure} {a : α} {f : Failure} :
    (o.elim (.ok a) .error : Except Failure α) = .error f ↔ o = some f := by
  cases o <;> simp

theorem elim_findSome?_cons (told : α → Option Failure) (y : α) (ys : List α)
    (e : Except Failure β) : ((y :: ys).findSome? told).elim e .error =
      (told y).elim ((ys.findSome? told).elim e .error) .error := by
  rw [List.findSome?_cons]
  cases told y <;> rfl

end Complaints

/-- **What an environment comes to**: the first complaint there is, or the settings that its
variables make. -/
theorem ofEnvironment_eq (env : Environment) (platformDir : String) :
    ofEnvironment env platformDir = (numerals.findSome? (complaint? env)).elim
      (.ok (byVariables env platformDir)) .error := by
  have hword32 : Range.word32.holds 0 = true := rfl
  have hword64 : Range.word64.holds 0 = true := rfl
  have hint64 : Range.int64.holds 0 = true := rfl
  have hdir : (textAt env "CHAT_DATA_DIR").getD (joinPath platformDir "chatcanvas") =
      orStandard (joinPath platformDir "chatcanvas") id (env.get? "CHAT_DATA_DIR") := by
    rw [← getD_textAt, Option.map_id_apply]
  have hfallback : ∀ standard, optionalAt env "CHAT_FALLBACK_URL" trimUrl (some standard) =
      orNone standard trimUrl (env.get? "CHAT_FALLBACK_URL") :=
    fun _ => optionalAt_eq fun _ => trimUrl_of_isBlankText
  have hpersona : ∀ standard, optionalAt env "CHAT_PERSONA" trim (some standard) =
      orNone standard trim (env.get? "CHAT_PERSONA") :=
    fun _ => optionalAt_eq fun _ => trim_eq_empty_iff.mpr
  simp only [ofEnvironment, standard, numberAt_eq env _ hword32, numberAt_eq env _ hword64,
    numberAt_eq env _ hint64, elim_bind, numerals, elim_findSome?_cons, getD_textAt, hdir,
    hfallback, hpersona]
  rfl

/-- **The settings of an environment.**

* What is told of an environment is told of one variable: the first one, in the order of
  `Parley.Settings.numerals`, that holds a text which is no number of its range. It is named, and so
  is the text.
* So there is something to tell exactly if one of these five variables is misread.
* If none is, every setting is made of its own variable, as `Parley.Settings.byVariables` says. -/
theorem settings_of_variables (env : Environment) (platformDir : String) :
    (∀ f, ofEnvironment env platformDir = .error f ↔ ∃ before x after text why,
      numerals = before ++ x :: after ∧ (∀ y ∈ before, ∀ t, ¬ IsMisread env y t) ∧
        IsMisread env x text ∧ readWhole x.2 text.toList = .error why ∧
        f = .settings (x.1 ++ " has invalid value '" ++ text ++ "': " ++ why.message)) ∧
      ((∃ f, ofEnvironment env platformDir = .error f) ↔
        ∃ x ∈ numerals, ∃ text, IsMisread env x text) ∧
      ∀ s, ofEnvironment env platformDir = .ok s ↔
        (∀ x ∈ numerals, ∀ text, ¬ IsMisread env x text) ∧ s = byVariables env platformDir := by
  have hunread : ∀ x ∈ numerals,
      (complaint? env x = none ↔ ∀ text, ¬ IsMisread env x text) :=
    fun x hx => complaint?_eq_none (holds_zero_of_mem_numerals hx)
  have hnone : numerals.findSome? (complaint? env) = none ↔
      ∀ x ∈ numerals, ∀ text, ¬ IsMisread env x text :=
    List.findSome?_eq_none_iff.trans (forall₂_congr hunread)
  rw [ofEnvironment_eq]
  refine ⟨fun f => ?_, ?_, fun s => ?_⟩
  · rw [elim_eq_error, List.findSome?_eq_some_iff]
    constructor
    · rintro ⟨before, x, after, hsplit, hx, hbefore⟩
      have hmem : ∀ y ∈ before ++ [x], y ∈ numerals := fun y hy => by
        rw [hsplit, List.append_cons]
        exact List.mem_append_left after hy
      obtain ⟨text, why, htext, hwhy, rfl⟩ := complaint?_eq_some.mp hx
      have hzero := holds_zero_of_mem_numerals (hmem x (by simp))
      exact ⟨before, x, after, text, why, hsplit,
        fun y hy => (hunread y (hmem y (by simp [hy]))).mp (hbefore y hy),
        ⟨htext, (readWhole_eq_error hzero).mp ⟨why, hwhy⟩⟩, hwhy, rfl⟩
    · rintro ⟨before, x, after, text, why, hsplit, hbefore, ⟨htext, -⟩, hwhy, rfl⟩
      refine ⟨before, x, after, hsplit, complaint?_eq_some.mpr ⟨text, why, htext, hwhy, rfl⟩,
        fun y hy => (hunread y ?_).mpr (hbefore y hy)⟩
      rw [hsplit]
      exact List.mem_append_left _ hy
  · rw [← not_iff_not]
    push Not
    rw [← hnone]
    cases numerals.findSome? (complaint? env) <;> simp
  · rw [← hnone]
    cases numerals.findSome? (complaint? env) <;> simp [eq_comm]

/-- Two variables are misread, and the one that is read first is named, with its text and nothing
around it. -/
example : ofEnvironment ⟨[("CHAT_USER_ID", "me"), ("CHAT_RETRY_BASE_MS", " -1 ")]⟩ "/home" = .error
    (.settings "CHAT_RETRY_BASE_MS has invalid value '-1': invalid digit found in string") := by
  rfl

end Parley.Settings
