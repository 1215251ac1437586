import Mathlib.Algebra.Group.Nat.Defs
import Mathlib.Algebra.Ring.Int.Defs
import Mathlib.Data.List.Basic

/-!
# Text

The string operations of Rust's standard library that a service of this kind uses, over Lean's
`String`: trimming by Unicode white space, prefixes, ASCII case, splitting at a character, and
integer parsing with its sign and overflow rules.

The lemmas are about framing: fields joined with a separator they do not contain can be read back
(`append_sep_inj`).
-/

namespace RustStd

/-! ## Characters and trimming -/

/-- Unicode `White_Space`. -/
def isWhitespace (c : Char) : Bool :=
  let n := c.toNat
  (9 ≤ n && n ≤ 13) || n == 0x20 || n == 0x85 || n == 0xA0 || n == 0x1680 ||
    (0x2000 ≤ n && n ≤ 0x200A) || n == 0x2028 || n == 0x2029 || n == 0x202F || n == 0x205F ||
    n == 0x3000

/-- `str::trim` on characters. -/
def trimChars (s : List Char) : List Char :=
  ((s.dropWhile isWhitespace).reverse.dropWhile isWhitespace).reverse

/-- `str::trim`. -/
def trim (s : String) : String := String.ofList (trimChars s.toList)

/-- `s.trim().is_empty()`. -/
def isBlank (s : String) : Bool := (trim s).isEmpty

/-- `str::starts_with` for a string pattern. -/
def startsWith (s pre : String) : Bool := pre.toList.isPrefixOf s.toList

/-- `str::strip_prefix`. -/
def stripPrefix (s pre : String) : Option String :=
  if startsWith s pre then some (String.ofList (s.toList.drop pre.toList.length)) else none

/-- `str::to_ascii_lowercase`. -/
def toAsciiLowercase (s : String) : String := String.ofList (s.toList.map Char.toLower)

/-- `str::to_ascii_uppercase`. -/
def toAsciiUppercase (s : String) : String := String.ofList (s.toList.map Char.toUpper)

/-- `str::replace` of one character by another. -/
def replaceChar (s : String) (c c' : Char) : String :=
  String.ofList (s.toList.map fun d => if d = c then c' else d)

/-- `str::eq_ignore_ascii_case`. -/
def eqIgnoreAsciiCase (s t : String) : Bool := toAsciiLowercase s == toAsciiLowercase t

/-- `str::is_ascii`. -/
def isAscii (s : String) : Bool := s.toList.all fun c => c.toNat < 128

/-- `char::is_ascii_hexdigit`. -/
def isAsciiHexdigit (c : Char) : Bool :=
  c.isDigit || ('a' ≤ c && c ≤ 'f') || ('A' ≤ c && c ≤ 'F')

/-- `str::split` at a character. The result is never empty. -/
def split (s : String) (sep : Char) : List String :=
  (s.toList.splitOn sep).map String.ofList

/-- The text before and after the first occurrence of `pat`. -/
def breakAt (pat : List Char) : List Char → Option (List Char × List Char)
  | [] => if pat.isEmpty then some ([], []) else none
  | c :: s =>
    if pat.isPrefixOf (c :: s) then some ([], (c :: s).drop pat.length)
    else (breakAt pat s).map fun (before, after) => (c :: before, after)

/-- `s.split(pat).nth(1)` for a string pattern: what lies between its first two occurrences. -/
def secondPiece (pat : String) (s : List Char) : Option (List Char) :=
  (breakAt pat.toList s).map fun (_, after) =>
    match breakAt pat.toList after with
    | some (piece, _) => piece
    | none => after

/-! ## Quoting -/

/-- Unicode's tables as `core` has them. It asks them beyond ASCII only. -/
structure CharTables where
  printable : Char → Bool
  graphemeExtend : Char → Bool

/-- `is_printable`. -/
def CharTables.isPrintable (tables : CharTables) (c : Char) : Bool :=
  if c.toNat < 32 then false else if c.toNat < 127 then true else tables.printable c

/-- `char::is_grapheme_extended`. -/
def CharTables.isGraphemeExtended (tables : CharTables) (c : Char) : Bool :=
  0x2FF < c.toNat && tables.graphemeExtend c

/-- `char::escape_debug` within a string. -/
def escapeDebug (tables : CharTables) (c : Char) : List Char :=
  if c.toNat = 0 then ['\\', '0']
  else if c = '\t' then ['\\', 't']
  else if c = '\r' then ['\\', 'r']
  else if c = '\n' then ['\\', 'n']
  else if c = '\\' then ['\\', '\\']
  else if c = '"' then ['\\', '"']
  else if tables.isGraphemeExtended c then unicode
  else if tables.isPrintable c then [c]
  else unicode
where
  unicode := "\\u\x7b".toList ++ Nat.toDigits 16 c.toNat ++ "\x7d".toList

/-- `{:?}` of a `str`. -/
def debugText (tables : CharTables) (s : String) : String :=
  String.ofList ('"' :: s.toList.flatMap (escapeDebug tables) ++ ['"'])

/-! ## Integers -/

/-- The number a digit string denotes in base ten, and nothing for any other string. -/
def digits? (s : List Char) : Option Nat :=
  if s ≠ [] ∧ s.all Char.isDigit then
    some (s.foldl (fun n c => 10 * n + (c.toNat - '0'.toNat)) 0)
  else none

/-- `str::parse` at an unsigned type with values below `bound`: an optional `+`, then digits. -/
def parseUnsigned (bound : Nat) (s : String) : Option Nat :=
  let body := match s.toList with
    | '+' :: rest => rest
    | cs => cs
  (digits? body).filter (· < bound)

def u16Bound : Nat := 2 ^ 16

def u32Bound : Nat := 2 ^ 32

def u64Bound : Nat := 2 ^ 64

def u128Bound : Nat := 2 ^ 128

/-- Why the digits are refused: a character that is none, or a number from `bound` on, whichever is
met first after `n`. -/
def digitsError (bound : Nat) : Nat → List Char → String
  | _, [] => "cannot parse integer from empty string"
  | n, c :: rest =>
    if ¬ c.isDigit then "invalid digit found in string"
    else if bound ≤ 10 * n + (c.toNat - '0'.toNat) then "number too large to fit in target type"
    else digitsError bound (10 * n + (c.toNat - '0'.toNat)) rest

/-- The text of `parseUnsigned`'s error, a `ParseIntError`. -/
def parseIntError (bound : Nat) (s : String) : String :=
  match s.toList with
  | ['+'] => "invalid digit found in string"
  | '+' :: rest => digitsError bound 0 rest
  | cs => digitsError bound 0 cs

/-- `str::parse::<i128>`. -/
def parseI128 (s : String) : Option Int :=
  let value : Option Int := match s.toList with
    | '+' :: rest => (digits? rest).map Int.ofNat
    | '-' :: rest => (digits? rest).map fun n => -(n : Int)
    | cs => (digits? cs).map Int.ofNat
  value.filter fun n => -(2 ^ 127) ≤ n ∧ n < 2 ^ 127

/-- `u64::saturating_add`. -/
def saturatingAdd (a b : Nat) : Nat := min (a + b) (u64Bound - 1)

/-- `u64::saturating_mul`. -/
def saturatingMul (a b : Nat) : Nat := min (a * b) (u64Bound - 1)

/-- `u64` subtraction, which wraps in a release build. -/
def wrappingSub (a b : Nat) : Nat := (a + (u64Bound - b % u64Bound)) % u64Bound

/-- `u64` multiplication, which wraps in a release build. -/
def wrappingMul (a b : Nat) : Nat := a * b % u64Bound

/-- `u64` subtraction, which panics in a debug build where it would wrap. -/
def checkedSub (a b : Nat) : Option Nat := if b ≤ a then some (a - b) else none

/-- `u64` multiplication, which panics in a debug build where it would wrap. -/
def checkedMul (a b : Nat) : Option Nat := if a * b < u64Bound then some (a * b) else none

/-! ## Arithmetic that does not wrap -/

theorem wrappingSub_of_le {a b : Nat} (hle : b ≤ a) (ha : a < u64Bound) :
    wrappingSub a b = a - b := by
  have hb : b % u64Bound = b := Nat.mod_eq_of_lt (Nat.lt_of_le_of_lt hle ha)
  have hsum : a + (u64Bound - b) = u64Bound + (a - b) := by omega
  rw [wrappingSub, hb, hsum, Nat.add_mod_left, Nat.mod_eq_of_lt (by omega)]

theorem wrappingMul_of_lt {a b : Nat} (h : a * b < u64Bound) : wrappingMul a b = a * b :=
  Nat.mod_eq_of_lt h

theorem checkedSub_of_le {a b : Nat} (h : b ≤ a) : checkedSub a b = some (a - b) := if_pos h

theorem checkedSub_of_lt {a b : Nat} (h : a < b) : checkedSub a b = none := if_neg (Nat.not_le.mpr h)

@[simp] theorem isSome_checkedMul (a b : Nat) :
    (checkedMul a b).isSome ↔ a * b < u64Bound := by
  unfold checkedMul
  split_ifs with h <;> simp [h]

/-! ## Case -/

theorem toNat_toLower (c : Char) :
    c.toLower.toNat = if 65 ≤ c.toNat ∧ c.toNat ≤ 90 then c.toNat + 32 else c.toNat := by
  have hiff : (c.val ≥ 'A'.val ∧ c.val ≤ 'Z'.val) ↔ 65 ≤ c.toNat ∧ c.toNat ≤ 90 := by
    simp [UInt32.le_iff_toNat_le]
  delta Char.toLower
  by_cases h : 65 ≤ c.toNat ∧ c.toNat ≤ 90
  · rw [dif_pos (hiff.mpr h), if_pos h]
    show (c.val + 32).toNat = c.toNat + 32
    have hval : c.val.toNat = c.toNat := rfl
    rw [UInt32.toNat_add, hval]
    simp
    omega
  · rw [dif_neg (mt hiff.mp h), if_neg h]

theorem toAsciiLowercase_toAsciiLowercase (s : String) :
    toAsciiLowercase (toAsciiLowercase s) = toAsciiLowercase s := by
  have hchar : ∀ c : Char, c.toLower.toLower = c.toLower := by
    intro c
    refine Char.toNat_inj.mp ?_
    rw [toNat_toLower, toNat_toLower]
    split_ifs <;> omega
  simp [toAsciiLowercase, Function.comp_def, hchar]

/-! ## Prefixes -/

theorem eq_append_of_stripPrefix {s pre rest : String} (h : stripPrefix s pre = some rest) :
    s = pre ++ rest := by
  unfold stripPrefix at h
  split_ifs at h with hpre
  obtain ⟨tail, htail⟩ := List.isPrefixOf_iff_prefix.mp hpre
  obtain rfl := Option.some.inj h
  rw [← htail, List.drop_left, ← String.toList_inj, ← htail]
  simp

/-! ## Texts with nothing to trim -/

theorem dropWhile_isWhitespace_eq_self {s : List Char}
    (h : ∀ c ∈ s.head?, isWhitespace c = false) : s.dropWhile isWhitespace = s := by
  cases s with
  | nil => rfl
  | cons c s => simp [h c rfl]

/-- A text that neither starts nor ends with white space is its own trimming. -/
theorem trimChars_eq_self_of_ends {s : List Char} (hstart : ∀ c ∈ s.head?, isWhitespace c = false)
    (hend : ∀ c ∈ s.getLast?, isWhitespace c = false) : trimChars s = s := by
  unfold trimChars
  rw [dropWhile_isWhitespace_eq_self hstart, dropWhile_isWhitespace_eq_self, List.reverse_reverse]
  rwa [List.head?_reverse]

theorem trimChars_eq_self {s : List Char} (h : ∀ c ∈ s, isWhitespace c = false) :
    trimChars s = s :=
  trimChars_eq_self_of_ends (fun c hc => h c (List.mem_of_mem_head? hc))
    fun c hc => h c (List.mem_of_mem_getLast? hc)

/-! ## Framing -/

theorem toList_toString (n : Nat) : (toString n).toList = Nat.toDigits 10 n := by
  simp [toString, Nat.repr]

theorem not_mem_toString {c : Char} (hc : c.isDigit = false) (n : Nat) :
    c ∉ (toString n).toList := by
  rw [toList_toString]
  intro h
  simp [Nat.isDigit_of_mem_toDigits (by decide) (by decide) h] at hc

/-- Its digits denote it. -/
theorem digits?_toDigits (n : Nat) : digits? (Nat.toDigits 10 n) = some n := by
  have hall : (Nat.toDigits 10 n).all Char.isDigit = true :=
    List.all_eq_true.mpr fun c hc => Nat.isDigit_of_mem_toDigits (by decide) (by decide) hc
  rw [digits?, if_pos ⟨Nat.toDigits_ne_nil, hall⟩, ← Nat.ofDigitChars_eq_foldl,
    Nat.ofDigitChars_ten_toDigits]

theorem toDigits_inj {m n : Nat} (h : Nat.toDigits 10 m = Nat.toDigits 10 n) : m = n := by
  have hread := congrArg digits? h
  rwa [digits?_toDigits, digits?_toDigits, Option.some.injEq] at hread

/-- A printed number is parsed back. -/
theorem parseUnsigned_toString {bound n : Nat} (h : n < bound) :
    parseUnsigned bound (toString n) = some n := by
  have hplus : '+' ∉ (toString n).toList := not_mem_toString (by decide) n
  unfold parseUnsigned
  split
  · rename_i rest heq
    exact absurd (heq ▸ List.mem_cons_self) hplus
  · simp [digits?_toDigits, h]

/-- Two texts split at their first separator agree field by field. -/
theorem append_sep_inj {c : Char} {xs ys as bs : List Char} (hx : c ∉ xs) (hy : c ∉ ys)
    (h : xs ++ c :: as = ys ++ c :: bs) : xs = ys ∧ as = bs := by
  induction xs generalizing ys with
  | nil =>
    cases ys with
    | nil => exact ⟨rfl, by simpa using h⟩
    | cons y ys =>
      simp only [List.nil_append, List.cons_append, List.cons.injEq] at h
      exact absurd (by simp [h.1]) hy
  | cons x xs ih =>
    cases ys with
    | nil =>
      simp only [List.nil_append, List.cons_append, List.cons.injEq] at h
      exact absurd (by simp [h.1]) hx
    | cons y ys =>
      simp only [List.cons_append, List.cons.injEq] at h
      simp only [List.mem_cons, not_or] at hx hy
      obtain ⟨rfl, rfl⟩ := ih hx.2 hy.2 h.2
      exact ⟨by rw [h.1], rfl⟩

/-- And so do two texts split at their last one. -/
theorem append_sep_last_inj {c : Char} {xs ys as bs : List Char} (hx : c ∉ xs) (hy : c ∉ ys)
    (h : as ++ c :: xs = bs ++ c :: ys) : as = bs ∧ xs = ys := by
  have hreverse : xs.reverse ++ c :: as.reverse = ys.reverse ++ c :: bs.reverse := by
    simpa using congrArg List.reverse h
  obtain ⟨hxs, has⟩ := append_sep_inj (by simpa using hx) (by simpa using hy) hreverse
  exact ⟨List.reverse_inj.mp has, List.reverse_inj.mp hxs⟩

/-- No field of a split contains the separator. -/
theorem not_mem_of_mem_splitOn {c : Char} {s : List Char} :
    ∀ {f : List Char}, f ∈ s.splitOn c → c ∉ f := by
  induction s with
  | nil => intro f hf; simp_all
  | cons x xs ih =>
    intro f hf
    rw [List.splitOn_cons_eq_if_modifyHead] at hf
    split_ifs at hf with hx
    · rcases List.mem_cons.mp hf with rfl | hf
      · simp
      · exact ih hf
    · cases hs : xs.splitOn c with
      | nil => exact absurd hs (List.splitOn_ne_nil c xs)
      | cons g gs =>
        rw [hs, List.modifyHead_cons] at hf
        rcases List.mem_cons.mp hf with rfl | hf
        · have hg : c ∉ g := ih (by rw [hs]; simp)
          have hxc : x ≠ c := by simpa using hx
          simp [hg, Ne.symm hxc]
        · exact ih (by rw [hs]; simp [hf])

end RustStd
