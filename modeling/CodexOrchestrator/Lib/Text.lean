import Mathlib.Data.List.DropRight
import CodexOrchestrator.Lib.Loops

/-!
# Text — the `str` operations of Python, as functions on `String`

`strip`, `lower`, `startsWith`, `join` and `repr` follow the documented behaviour of the built-in
operations.  Everything is structural recursion over the character list, so a result can be computed
by `decide`.
-/

namespace PyText

/-- `str.isspace` of one character. -/
def isSpace (c : Char) : Bool :=
  let n := c.toNat
  (9 ≤ n && n ≤ 13) || (28 ≤ n && n ≤ 32) || n == 0x85 || n == 0xA0 || n == 0x1680 ||
    (0x2000 ≤ n && n ≤ 0x200A) || n == 0x2028 || n == 0x2029 || n == 0x202F || n == 0x205F ||
    n == 0x3000

/-- `str.strip()`: white space is dropped at both ends. -/
def strip (s : String) : String :=
  String.ofList ((s.toList.dropWhile isSpace).rdropWhile isSpace)

/-- The lower-case form of one character.  Two capitals outside ASCII have an ASCII letter in their
    lower-case form: `İ` (which becomes `i` and a combining dot) and the Kelvin sign. -/
def lowerChar (c : Char) : List Char :=
  if c.toNat = 0x130 then ['i', Char.ofNat 0x307]
  else if c.toNat = 0x212A then ['k']
  else [c.toLower]

/-- `str.lower()`. -/
def lower (s : String) : String :=
  String.ofList (s.toList.flatMap lowerChar)

/-- `str.startswith(prefix)`. -/
def startsWith (s start : String) : Bool :=
  start.toList.isPrefixOf s.toList

/-- `sep.join(parts)`. -/
def join (sep : String) : List String → String
  | [] => ""
  | [part] => part
  | part :: rest => part ++ sep ++ join sep rest

/-- `a or b` on strings: the empty string is false. -/
def orElse (a b : String) : String :=
  if a = "" then b else a

/-- The ranges of the characters that are not printable, besides the space: controls, formats,
    separators and private use.  Unassigned code points, which differ between versions of Unicode, are
    not listed. -/
def unprintable : List (Nat × Nat) :=
  [(0x0, 0x1F), (0x7F, 0xA0), (0xAD, 0xAD), (0x600, 0x605), (0x61C, 0x61C), (0x6DD, 0x6DD),
    (0x70F, 0x70F), (0x890, 0x891), (0x8E2, 0x8E2), (0x1680, 0x1680), (0x180E, 0x180E),
    (0x2000, 0x200F), (0x2028, 0x202F), (0x205F, 0x2064), (0x2066, 0x206F), (0x3000, 0x3000),
    (0xD800, 0xF8FF), (0xFEFF, 0xFEFF), (0xFFF9, 0xFFFB), (0x110BD, 0x110BD), (0x110CD, 0x110CD),
    (0x13430, 0x13438), (0x1BCA0, 0x1BCA3), (0x1D173, 0x1D17A), (0xE0001, 0xE0001),
    (0xE0020, 0xE007F), (0xF0000, 0xFFFFD), (0x100000, 0x10FFFD)]

/-- `str.isprintable` of one character. -/
def isPrintable (c : Char) : Bool :=
  !unprintable.any fun (first, last) => first ≤ c.toNat && c.toNat ≤ last

/-- `width` hexadecimal digits of `n`. -/
def hexDigits (n : Nat) : (width : Nat) → List Char
  | 0 => []
  | width + 1 => hexDigits (n / 16) width ++ [Nat.digitChar (n % 16)]

/-- One character of `repr(s)`, inside the quotes `quote`. -/
def reprChar (quote c : Char) : List Char :=
  if c = '\\' then ['\\', '\\']
  else if c = quote then ['\\', quote]
  else if c = '\n' then ['\\', 'n']
  else if c = '\r' then ['\\', 'r']
  else if c = '\t' then ['\\', 't']
  else if isPrintable c then [c]
  else if c.toNat ≤ 0xFF then ['\\', 'x'] ++ hexDigits c.toNat 2
  else if c.toNat ≤ 0xFFFF then ['\\', 'u'] ++ hexDigits c.toNat 4
  else ['\\', 'U'] ++ hexDigits c.toNat 8

/-- `repr(s)`: single quotes, unless `s` has one and no double quote. -/
def repr (s : String) : String :=
  let quote := if '\'' ∈ s.toList ∧ '"' ∉ s.toList then '"' else '\''
  String.ofList (quote :: s.toList.flatMap (reprChar quote) ++ [quote])

/-- The values without white space around them, each non-blank one once, in the order in which they
    first stand. -/
def distinctTrimmed (values : List String) : List String :=
  Loops.distinct ((values.map strip).filter fun value => value ≠ "")

theorem dropWhile_rdropWhile {α : Type} (p : α → Bool) (l : List α) :
    ((l.dropWhile p).rdropWhile p).dropWhile p = (l.dropWhile p).rdropWhile p := by
  -- what is cut off at the end leaves the first element in place
  have hprefix := List.rdropWhile_prefix p (l.dropWhile p)
  cases hfront : (l.dropWhile p).rdropWhile p with
  | nil => rfl
  | cons x rest =>
      rw [hfront] at hprefix
      obtain ⟨back, hback⟩ := hprefix
      have hx : ¬ p x = true := by
        have hne : l.dropWhile p ≠ [] := by
          rw [← hback]
          simp
        have hhead := List.head_dropWhile_not p hne
        simp only [← hback, List.cons_append, List.head_cons] at hhead
        simp [hhead]
      rw [List.dropWhile_cons_of_neg hx]

@[simp] theorem strip_strip (s : String) : strip (strip s) = strip s := by
  unfold strip
  rw [String.toList_ofList, dropWhile_rdropWhile, List.rdropWhile_idempotent]

theorem mem_distinctTrimmed {values : List String} {value : String} :
    value ∈ distinctTrimmed values ↔ value ≠ "" ∧ ∃ raw ∈ values, strip raw = value := by
  rw [distinctTrimmed, Loops.mem_distinct, List.mem_filter, List.mem_map, decide_eq_true_eq,
    and_comm]

theorem nodup_distinctTrimmed (values : List String) : (distinctTrimmed values).Nodup :=
  Loops.nodup_distinct _

theorem strip_of_mem_distinctTrimmed {values : List String} {value : String}
    (h : value ∈ distinctTrimmed values) : strip value = value := by
  obtain ⟨-, raw, -, rfl⟩ := mem_distinctTrimmed.mp h
  exact strip_strip raw

/-- Nothing is left exactly when every value is blank. -/
theorem distinctTrimmed_eq_nil_iff {values : List String} :
    distinctTrimmed values = [] ↔ ∀ value ∈ values, strip value = "" := by
  rw [List.eq_nil_iff_forall_not_mem]
  constructor
  · intro h value hvalue
    by_contra hne
    exact h (strip value) (mem_distinctTrimmed.mpr ⟨hne, value, hvalue, rfl⟩)
  · intro h value hvalue
    obtain ⟨hne, raw, hraw, rfl⟩ := mem_distinctTrimmed.mp hvalue
    exact hne (h raw hraw)

/-- Two strings with a common start and different lengths after it are different. -/
theorem append_ne_of_length {a b c : String} (h : a.length ≠ b.length) : a ++ c ≠ b ++ c := by
  intro he
  have hlen := congrArg String.length he
  rw [String.length_append, String.length_append] at hlen
  omega

theorem append_left_cancel {a b c : String} (h : a ++ b = a ++ c) : b = c := by
  simpa using h

/-! ## Lower case and white space -/

theorem toNat_toLower (c : Char) :
    c.toLower.toNat = if 65 ≤ c.toNat ∧ c.toNat ≤ 90 then c.toNat + 32 else c.toNat := by
  have hcapital : (c.val ≥ 'A'.val ∧ c.val ≤ 'Z'.val) ↔ 65 ≤ c.toNat ∧ c.toNat ≤ 90 := by
    rw [ge_iff_le, UInt32.le_iff_toNat_le, UInt32.le_iff_toNat_le]
    rfl
  unfold Char.toLower
  split
  · rename_i h
    have hrange := hcapital.mp h
    rw [if_pos hrange]
    have hval : (c.val + ('a'.val - 'A'.val)).toNat = c.toNat + 32 := by
      rw [UInt32.toNat_add]
      exact Nat.mod_eq_of_lt (by have := hrange.2; simp; omega)
    exact hval
  · rename_i h
    rw [if_neg (mt hcapital.mpr h)]

theorem toLower_toLower (c : Char) : c.toLower.toLower = c.toLower := by
  rw [← Char.toNat_inj, toNat_toLower, if_neg]
  rw [toNat_toLower]
  split <;> omega

theorem isSpace_iff (c : Char) : isSpace c = true ↔
    (9 ≤ c.toNat ∧ c.toNat ≤ 13) ∨ (28 ≤ c.toNat ∧ c.toNat ≤ 32) ∨ c.toNat = 0x85 ∨
      c.toNat = 0xA0 ∨ c.toNat = 0x1680 ∨ (0x2000 ≤ c.toNat ∧ c.toNat ≤ 0x200A) ∨
      c.toNat = 0x2028 ∨ c.toNat = 0x2029 ∨ c.toNat = 0x202F ∨ c.toNat = 0x205F ∨
      c.toNat = 0x3000 := by
  simp only [isSpace, Bool.or_eq_true, Bool.and_eq_true, decide_eq_true_eq, beq_iff_eq, or_assoc]

/-- White space is its own lower-case form. -/
theorem lowerChar_of_isSpace {c : Char} (h : isSpace c = true) : lowerChar c = [c] := by
  rw [isSpace_iff] at h
  have hlower : c.toLower = c := by
    rw [← Char.toNat_inj, toNat_toLower, if_neg (by omega)]
  rw [lowerChar, if_neg (by omega), if_neg (by omega), hlower]

/-- The lower-case form of another character has no white space in it. -/
theorem isSpace_of_mem_lowerChar {c d : Char} (h : ¬ isSpace c = true) (hd : d ∈ lowerChar c) :
    ¬ isSpace d = true := by
  unfold lowerChar at hd
  split at hd
  · rcases List.mem_cons.mp hd with rfl | hd
    · decide
    · rw [List.mem_singleton.mp hd]
      decide
  · split at hd
    · rw [List.mem_singleton.mp hd]
      decide
    · rw [isSpace_iff] at h
      rw [List.mem_singleton.mp hd, isSpace_iff, toNat_toLower]
      split <;> omega

theorem lowerChar_ne_nil (c : Char) : lowerChar c ≠ [] := by
  unfold lowerChar
  split
  · simp
  · split <;> simp

theorem lowerChar_lowerChar (c : Char) : (lowerChar c).flatMap lowerChar = lowerChar c := by
  unfold lowerChar
  split
  · decide
  · split
    · decide
    · rename_i hdot hkelvin
      rw [List.flatMap_singleton, toNat_toLower, toLower_toLower, if_neg (by split <;> omega),
        if_neg (by split <;> omega)]

@[simp] theorem lower_lower (s : String) : lower (lower s) = lower s := by
  unfold lower
  rw [String.toList_ofList, List.flatMap_assoc]
  exact congrArg String.ofList (List.flatMap_congr fun c _ => lowerChar_lowerChar c)

/-- White space at the front is dropped before or after the characters are spelled out. -/
theorem dropWhile_flatMap_lowerChar (l : List Char) :
    (l.flatMap lowerChar).dropWhile isSpace = (l.dropWhile isSpace).flatMap lowerChar := by
  induction l with
  | nil => rfl
  | cons c rest ih =>
      by_cases hc : isSpace c = true
      · rw [List.flatMap_cons, lowerChar_of_isSpace hc, List.singleton_append,
          List.dropWhile_cons_of_pos hc, List.dropWhile_cons_of_pos hc, ih]
      · rw [List.dropWhile_cons_of_neg hc, List.flatMap_cons]
        cases hlower : lowerChar c with
        | nil => exact absurd hlower (lowerChar_ne_nil c)
        | cons d more =>
            have hd := isSpace_of_mem_lowerChar hc (hlower ▸ List.mem_cons_self)
            rw [List.cons_append, List.dropWhile_cons_of_neg hd]

theorem rdropWhile_flatMap_lowerChar (l : List Char) :
    (l.flatMap lowerChar).rdropWhile isSpace = (l.rdropWhile isSpace).flatMap lowerChar := by
  induction l using List.reverseRecOn with
  | nil => rfl
  | append_singleton l c ih =>
      rw [List.flatMap_append, List.flatMap_singleton]
      by_cases hc : isSpace c = true
      · rw [lowerChar_of_isSpace hc, List.rdropWhile_concat_pos _ _ _ hc,
          List.rdropWhile_concat_pos _ _ _ hc, ih]
      · rw [List.rdropWhile_concat_neg _ _ _ hc, List.flatMap_append, List.flatMap_singleton]
        rcases List.eq_nil_or_concat' (lowerChar c) with hnil | ⟨more, d, hlower⟩
        · exact absurd hnil (lowerChar_ne_nil c)
        · have hd : ¬ isSpace d = true := isSpace_of_mem_lowerChar hc (by simp [hlower])
          rw [hlower, ← List.append_assoc, List.rdropWhile_concat_neg _ _ _ hd]

/-- `s.lower().strip()` is `s.strip().lower()`. -/
theorem strip_lower (s : String) : strip (lower s) = lower (strip s) := by
  unfold strip lower
  rw [String.toList_ofList, String.toList_ofList, dropWhile_flatMap_lowerChar,
    rdropWhile_flatMap_lowerChar]

theorem lower_eq_empty_iff (s : String) : lower s = "" ↔ s = "" := by
  constructor
  · intro h
    have hnil : s.toList.flatMap lowerChar = [] := by
      have hlist := congrArg String.toList h
      rwa [lower, String.toList_ofList] at hlist
    rw [List.flatMap_eq_nil_iff] at hnil
    rw [← String.toList_eq_nil_iff, List.eq_nil_iff_forall_not_mem]
    exact fun c hc => lowerChar_ne_nil c (hnil c hc)
  · rintro rfl
    rfl

example : lower (strip " GemIni\n") = "gemini" := by decide

end PyText
