import Mathlib.Data.List.Induction
import X402Verifier.RustStd.Text

/-!
# Internet addresses in text

`IpAddr`'s `Display` and `FromStr`. IPv6 is printed in groups of lowercase hex, with `::` for the
longest run of two or more zero groups, and an IPv4 address mapped into IPv6 ends in its dotted form.
The reader takes more than is printed: capitals, leading zeros, any run of zeros left out.

**Theorem (`parseIpAddr_ipAddrToString`).** What is printed is read back.

Each reader is told apart from what follows by its first character: no digit follows a number, a
group is followed by nothing or a colon (`readGroups_groupsText`), and without a dot nothing is taken
for IPv4 (`readIpv4Addr_of_no_dot`). What `::` stands for is a run of zeros by the invariant of the
loop that looks for it (`spans_findZeroes`).
-/

namespace RustStd

inductive IpAddr where
  | v4 (octets : Vector UInt8 4)
  | v6 (segments : Vector UInt16 8)
  deriving DecidableEq

/-! ## Printing -/

/-- `{:x}`. -/
def hexText (segment : UInt16) : List Char := Nat.toDigits 16 segment.toNat

/-- An octet in decimal. -/
def octetText (octet : UInt8) : List Char := Nat.toDigits 10 octet.toNat

/-- `Ipv4Addr`'s `Display`. -/
def ipv4Text (octets : Vector UInt8 4) : List Char :=
  octetText octets[0] ++ '.' :: (octetText octets[1] ++ '.' ::
    (octetText octets[2] ++ '.' :: octetText octets[3]))

/-- `fmt_subslice`. -/
def groupsText : List UInt16 → List Char
  | [] => []
  | first :: tail => hexText first ++ tail.flatMap fun segment => ':' :: hexText segment

structure Span where
  start : Nat := 0
  len : Nat := 0

/-- One step of the search for the longest run of zeros, which is kept beside the current one. -/
def Span.next : Span × Span → UInt16 × Nat → Span × Span
  | (longest, current), (segment, i) =>
    if segment = 0 then
      let current : Span := ⟨if current.len = 0 then i else current.start, current.len + 1⟩
      (if longest.len < current.len then current else longest, current)
    else (longest, {})

def findZeroes (segments : List UInt16) : Span × Span := segments.zipIdx.foldl Span.next ({}, {})

/-- The bytes of a segment, big-endian. -/
def highByte (segment : UInt16) : UInt8 := .ofNat (segment.toNat / 256)

def lowByte (segment : UInt16) : UInt8 := .ofNat segment.toNat

/-- `to_ipv4_mapped`. -/
def toIpv4Mapped (segments : Vector UInt16 8) : Option (Vector UInt8 4) :=
  if segments.toList.take 6 = [0, 0, 0, 0, 0, 0xffff] then
    some #v[highByte segments[6], lowByte segments[6], highByte segments[7], lowByte segments[7]]
  else none

/-- `Ipv6Addr`'s `Display`. -/
def ipv6Text (segments : Vector UInt16 8) : List Char :=
  match toIpv4Mapped segments with
  | some ipv4 => "::ffff:".toList ++ ipv4Text ipv4
  | none =>
    let zeroes := (findZeroes segments.toList).1
    if 1 < zeroes.len then
      groupsText (segments.toList.take zeroes.start) ++ ':' :: ':' ::
        groupsText (segments.toList.drop (zeroes.start + zeroes.len))
    else groupsText segments.toList

/-- `IpAddr`'s `Display`. -/
def ipAddrToString : IpAddr → String
  | .v6 segments => String.ofList (ipv6Text segments)
  | .v4 octets => String.ofList (ipv4Text octets)

/-! ## Reading -/

/-- `char::to_digit`. -/
def toDigit (radix : Nat) (c : Char) : Option Nat :=
  let n := c.toNat
  let digit :=
    if 48 ≤ n ∧ n ≤ 57 then some (n - 48)
    else if 97 ≤ n ∧ n ≤ 122 then some (n - 87)
    else if 65 ≤ n ∧ n ≤ 90 then some (n - 55)
    else none
  digit.filter (· < radix)

def leadingDigits (radix : Nat) (s : List Char) : List Char :=
  s.takeWhile fun c => (toDigit radix c).isSome

/-- The number that digits denote. -/
def digitsValue (radix : Nat) (digits : List Char) : Nat :=
  digits.foldl (fun n c => radix * n + (toDigit radix c).getD 0) 0

/-- `read_number` at a type with values below `bound`. -/
def readNumber (radix maxDigits bound : Nat) (allowZeroPrefix : Bool) (s : List Char) :
    Option (Nat × List Char) :=
  let digits := leadingDigits radix s
  if digits = [] ∨ maxDigits < digits.length then none
  else if allowZeroPrefix = false ∧ s.head? = some '0' ∧ 1 < digits.length then none
  else if bound ≤ digitsValue radix digits then none
  else some (digitsValue radix digits, s.drop digits.length)

/-- `read_separator`: the separator, except at the first index, and what `inner` reads. -/
def readSeparator {α : Type} (sep : Char) (index : Nat)
    (inner : List Char → Option (α × List Char)) (s : List Char) : Option (α × List Char) :=
  if index = 0 then inner s
  else
    match s with
    | c :: rest => if c = sep then inner rest else none
    | [] => none

def readOctet (index : Nat) (s : List Char) : Option (Nat × List Char) :=
  readSeparator '.' index (readNumber 10 3 256 false) s

/-- `read_ipv4_addr`. -/
def readIpv4Addr (s : List Char) : Option (Vector UInt8 4 × List Char) := do
  let (one, s) ← readOctet 0 s
  let (two, s) ← readOctet 1 s
  let (three, s) ← readOctet 2 s
  let (four, s) ← readOctet 3 s
  some (#v[.ofNat one, .ofNat two, .ofNat three, .ofNat four], s)

/-- `u16::from_be_bytes`. -/
def fromBeBytes (high low : UInt8) : UInt16 := .ofNat (256 * high.toNat + low.toNat)

def readGroup (index : Nat) (s : List Char) : Option (Nat × List Char) :=
  readSeparator ':' index (readNumber 16 4 65536 true) s

/-- An IPv4 address, where two groups or more are left. -/
def readEmbedded (index left : Nat) (s : List Char) : Option (Vector UInt8 4 × List Char) :=
  if 1 < left then readSeparator ':' index readIpv4Addr s else none

/-- `read_groups` from an index on, with so many groups left: the groups, whether an IPv4 address
ends them, and what follows. -/
def readGroups (index : Nat) : Nat → List Char → List UInt16 × Bool × List Char
  | 0, s => ([], false, s)
  | left + 1, s =>
    match readEmbedded index (left + 1) s with
    | some (ipv4, rest) =>
      ([fromBeBytes ipv4[0] ipv4[1], fromBeBytes ipv4[2] ipv4[3]], true, rest)
    | none =>
      match readGroup index s with
      | some (group, rest) =>
        let (groups, ipv4, rest) := readGroups (index + 1) left rest
        (.ofNat group :: groups, ipv4, rest)
      | none => ([], false, s)

def ofGroups (groups : List UInt16) : Vector UInt16 8 := .ofFn fun i => groups.getD i 0

/-- The groups before and after `::`. -/
def withZeroes (head tail : List UInt16) : List UInt16 :=
  head ++ List.replicate (8 - tail.length - head.length) 0 ++ tail

/-- `read_ipv6_addr`. -/
def readIpv6Addr (s : List Char) : Option (Vector UInt16 8 × List Char) :=
  let (head, ipv4, rest) := readGroups 0 8 s
  if head.length = 8 then some (ofGroups head, rest)
  else if ipv4 then none
  else
    match rest with
    | ':' :: ':' :: rest =>
      let (tail, _, rest) := readGroups 0 (8 - (head.length + 1)) rest
      some (ofGroups (withZeroes head tail), rest)
    | _ => none

/-- `IpAddr`'s `FromStr`: an address, and nothing after it. -/
def parseIpAddr (s : String) : Option IpAddr :=
  match ((readIpv4Addr s.toList).map (Prod.map .v4 id)).or
      ((readIpv6Addr s.toList).map (Prod.map .v6 id)) with
  | some (ip, []) => some ip
  | _ => none

example : (parseIpAddr "2001:DB8::1").map ipAddrToString = some "2001:db8::1" := by decide

example : (parseIpAddr "0:0:0:0:0:ffff:c000:201").map ipAddrToString = some "::ffff:192.0.2.1" := by
  decide

example : parseIpAddr "192.0.02.1" = none := by decide

/-! ## Numbers -/

theorem toDigit_digitChar {radix n : Nat} (hn : n < radix) (hradix : radix ≤ 16) :
    toDigit radix n.digitChar = some n := by
  have hdigit : ∀ n < 16, (toDigit 16 n.digitChar) = some n := by decide
  have hsixteen := hdigit n (by omega)
  simp only [toDigit, Option.filter_eq_some_iff] at hsixteen ⊢
  exact ⟨hsixteen.1, by simpa using hn⟩

theorem exists_digit_of_mem_toDigits {radix n : Nat} (hradix : 1 < radix) {c : Char}
    (hc : c ∈ Nat.toDigits radix n) : ∃ d < radix, c = d.digitChar := by
  induction n using Nat.strongRecOn with
  | ind n ih =>
    rw [Nat.toDigits_eq_if hradix] at hc
    split_ifs at hc with hlt
    · exact ⟨n, hlt, List.mem_singleton.mp hc⟩
    · have hsmaller : n / radix < n := Nat.div_lt_self (by omega) hradix
      rcases List.mem_append.mp hc with hc | hc
      · exact ih _ hsmaller hc
      · exact ⟨_, Nat.mod_lt _ (by omega), List.mem_singleton.mp hc⟩

section Digits

variable {radix : Nat} (hradix : 1 < radix ∧ radix ≤ 16)

include hradix

theorem isSome_of_mem_toDigits (n : Nat) :
    ∀ c ∈ Nat.toDigits radix n, (toDigit radix c).isSome := by
  intro c hc
  obtain ⟨d, hd, rfl⟩ := exists_digit_of_mem_toDigits hradix.1 hc
  rw [toDigit_digitChar hd hradix.2]
  rfl

theorem digitsValue_toDigits (n : Nat) : digitsValue radix (Nat.toDigits radix n) = n := by
  induction n using Nat.strongRecOn with
  | ind n ih =>
    rw [Nat.toDigits_eq_if hradix.1]
    split_ifs with hlt
    · simp [digitsValue, toDigit_digitChar hlt hradix.2]
    · have hsmaller : n / radix < n := Nat.div_lt_self (by omega) hradix.1
      have hlast := toDigit_digitChar (Nat.mod_lt n (by omega : 0 < radix)) hradix.2
      have hbefore := ih _ hsmaller
      rw [digitsValue] at hbefore ⊢
      rw [List.foldl_append, hbefore]
      simp [hlast, Nat.div_add_mod]

/-- What follows a number does not start with a digit. -/
theorem leadingDigits_toDigits (n : Nat) {rest : List Char}
    (hrest : ∀ c ∈ rest.head?, toDigit radix c = none) :
    leadingDigits radix (Nat.toDigits radix n ++ rest) = Nat.toDigits radix n := by
  have hnone : rest.takeWhile (fun c => (toDigit radix c).isSome) = [] := by
    cases rest with
    | nil => rfl
    | cons c rest => simp [hrest c rfl]
  rw [leadingDigits, List.takeWhile_append_of_pos fun c hc => isSome_of_mem_toDigits hradix n c hc,
    hnone, List.append_nil]

/-- A printed number is read. -/
theorem readNumber_toDigits {maxDigits bound n : Nat} {allowZeroPrefix : Bool} {rest : List Char}
    (hlength : (Nat.toDigits radix n).length ≤ maxDigits) (hn : n < bound)
    (hzero : allowZeroPrefix = false → (Nat.toDigits radix n).head? = some '0' →
      (Nat.toDigits radix n).length ≤ 1)
    (hrest : ∀ c ∈ rest.head?, toDigit radix c = none) :
    readNumber radix maxDigits bound allowZeroPrefix (Nat.toDigits radix n ++ rest) =
      some (n, rest) := by
  have hne : Nat.toDigits radix n ≠ [] := Nat.toDigits_ne_nil
  have hhead : (Nat.toDigits radix n ++ rest).head? = (Nat.toDigits radix n).head? :=
    List.head?_append_of_ne_nil _ hne
  have hprefix : ¬ (allowZeroPrefix = false ∧ (Nat.toDigits radix n).head? = some '0' ∧
      1 < (Nat.toDigits radix n).length) := by
    rintro ⟨hallow, hstarts, hlong⟩
    have hshort := hzero hallow hstarts
    omega
  simp only [readNumber, leadingDigits_toDigits hradix n hrest, digitsValue_toDigits hradix, hhead]
  rw [if_neg (by simp [hne, hlength]), if_neg hprefix, if_neg (by omega), List.drop_left]

end Digits

theorem readNumber_of_head {radix maxDigits bound : Nat} {allowZeroPrefix : Bool} {s : List Char}
    (h : ∀ c ∈ s.head?, toDigit radix c = none) :
    readNumber radix maxDigits bound allowZeroPrefix s = none := by
  have hnone : leadingDigits radix s = [] := by
    cases s with
    | nil => rfl
    | cons c s => simp [leadingDigits, h c rfl]
  rw [readNumber, hnone, if_pos (.inl rfl)]

theorem mem_of_readNumber {radix maxDigits bound n : Nat} {allowZeroPrefix : Bool}
    {s rest : List Char} (h : readNumber radix maxDigits bound allowZeroPrefix s = some (n, rest)) :
    ∀ c ∈ rest, c ∈ s := by
  simp only [readNumber] at h
  split_ifs at h
  obtain ⟨-, rfl⟩ := Prod.mk.inj (Option.some.inj h)
  exact fun c hc => List.mem_of_mem_drop hc

theorem readSeparator_self {α : Type} {sep : Char} {index : Nat} (hindex : index ≠ 0)
    (inner : List Char → Option (α × List Char)) (s : List Char) :
    readSeparator sep index inner (sep :: s) = inner s := by
  simp [readSeparator, hindex]

theorem readSeparator_of_head {α : Type} {sep : Char} {index : Nat} (hindex : index ≠ 0)
    (inner : List Char → Option (α × List Char)) {s : List Char} (h : ∀ c ∈ s.head?, c ≠ sep) :
    readSeparator sep index inner s = none := by
  cases s with
  | nil => simp [readSeparator, hindex]
  | cons c s => simp [readSeparator, hindex, h c rfl]

/-! ## IPv4 -/

theorem octetText_spec :
    ∀ n < 256, (Nat.toDigits 10 n).length ≤ 3 ∧
      ((Nat.toDigits 10 n).head? = some '0' → (Nat.toDigits 10 n).length ≤ 1) := by
  decide +kernel

theorem readNumber_octetText (octet : UInt8) {rest : List Char}
    (hrest : ∀ c ∈ rest.head?, toDigit 10 c = none) :
    readNumber 10 3 256 false (octetText octet ++ rest) = some (octet.toNat, rest) := by
  obtain ⟨hlength, hzero⟩ := octetText_spec octet.toNat octet.toNat_lt
  exact readNumber_toDigits (by decide) hlength octet.toNat_lt (fun _ => hzero) hrest

theorem readOctet_octetText (octet : UInt8) {index : Nat} (hindex : index ≠ 0) {rest : List Char}
    (hrest : ∀ c ∈ rest.head?, toDigit 10 c = none) :
    readOctet index ('.' :: (octetText octet ++ rest)) = some (octet.toNat, rest) := by
  rw [readOctet, readSeparator_self hindex]
  exact readNumber_octetText octet hrest

/-- A printed IPv4 address is read. -/
theorem readIpv4Addr_ipv4Text (octets : Vector UInt8 4) :
    readIpv4Addr (ipv4Text octets) = some (octets, []) := by
  have hdot : ∀ rest : List Char, ∀ c ∈ ('.' :: rest).head?, toDigit 10 c = none := by
    rintro rest c ⟨⟩
    decide
  have hfirst : ∀ rest, readOctet 0 (octetText octets[0] ++ '.' :: rest) =
      some (octets[0].toNat, '.' :: rest) :=
    fun rest => readNumber_octetText octets[0] (hdot rest)
  have hlast : readOctet 3 ('.' :: octetText octets[3]) = some (octets[3].toNat, []) := by
    have hread : readOctet 3 ('.' :: (octetText octets[3] ++ [])) = some (octets[3].toNat, []) :=
      readOctet_octetText octets[3] (by decide) nofun
    rwa [List.append_nil] at hread
  simp only [readIpv4Addr, ipv4Text, Option.bind_eq_bind, hfirst, Option.bind_some,
    readOctet_octetText _ Nat.one_ne_zero (hdot _),
    readOctet_octetText _ (by decide : 2 ≠ 0) (hdot _), hlast, UInt8.ofNat_toNat]
  refine congrArg (fun o => some (o, [])) (Vector.ext fun i hi => ?_)
  have hcases : i = 0 ∨ i = 1 ∨ i = 2 ∨ i = 3 := by omega
  rcases hcases with rfl | rfl | rfl | rfl <;> rfl

theorem readOctet_of_no_dot {index : Nat} (hindex : index ≠ 0) {s : List Char} (h : '.' ∉ s) :
    readOctet index s = none :=
  readSeparator_of_head hindex _ fun _ hc heq => h (heq ▸ List.mem_of_mem_head? hc)

/-- Without a dot nothing is. -/
theorem readIpv4Addr_of_no_dot {s : List Char} (h : '.' ∉ s) : readIpv4Addr s = none := by
  rw [readIpv4Addr]
  cases hfirst : readOctet 0 s with
  | none => rfl
  | some p =>
    obtain ⟨one, rest⟩ := p
    have hrest : '.' ∉ rest := fun hmem => h (mem_of_readNumber hfirst '.' hmem)
    simp only [Option.bind_eq_bind, Option.bind_some, readOctet_of_no_dot Nat.one_ne_zero hrest,
      Option.bind_none]

theorem readIpv4Addr_of_head {s : List Char} (h : ∀ c ∈ s.head?, toDigit 10 c = none) :
    readIpv4Addr s = none := by
  have hfirst : readOctet 0 s = none := readNumber_of_head h
  rw [readIpv4Addr, hfirst]
  rfl

/-! ## IPv6 -/

/-- Nothing more to read, or the zeros left out. -/
inductive Stops : List Char → Prop
  | nil : Stops []
  | zeroes (rest : List Char) : Stops (':' :: ':' :: rest)

theorem Stops.head {s : List Char} (h : Stops s) (radix : Nat) :
    ∀ c ∈ s.head?, toDigit radix c = none := by
  cases h with
  | nil => nofun
  | zeroes rest =>
    rintro c ⟨⟩
    rfl

theorem readEmbedded_of_no_dot {index left : Nat} {s : List Char} (h : '.' ∉ s) :
    readEmbedded index left s = none := by
  have hread : readSeparator ':' index readIpv4Addr s = none := by
    by_cases hindex : index = 0
    · rw [hindex]
      exact readIpv4Addr_of_no_dot h
    · by_cases hhead : s.head? = some ':'
      · obtain ⟨t, rfl⟩ := List.head?_eq_some_iff.mp hhead
        rw [readSeparator_self hindex]
        exact readIpv4Addr_of_no_dot fun hmem => h (List.mem_cons_of_mem _ hmem)
      · exact readSeparator_of_head hindex _ fun c hc heq => hhead (heq ▸ hc)
  rw [readEmbedded, hread, ite_self]

theorem readGroup_of_stops {s : List Char} (h : Stops s) (index : Nat) : readGroup index s = none := by
  by_cases hindex : index = 0
  · rw [hindex]
    exact readNumber_of_head (h.head 16)
  · cases h with
    | nil => exact readSeparator_of_head hindex _ nofun
    | zeroes rest =>
      rw [readGroup, readSeparator_self hindex]
      refine readNumber_of_head ?_
      rintro c ⟨⟩
      rfl

theorem readGroups_of_stops {s : List Char} (h : Stops s) (hdot : '.' ∉ s) (index left : Nat) :
    readGroups index left s = ([], false, s) := by
  cases left with
  | zero => rfl
  | succ left => rw [readGroups, readEmbedded_of_no_dot hdot, readGroup_of_stops h]

theorem readGroups_of_group {index left group : Nat} {s rest tail : List Char}
    {groups : List UInt16} {ipv4 : Bool} (hembedded : readEmbedded index (left + 1) s = none)
    (hgroup : readGroup index s = some (group, rest))
    (hlater : readGroups (index + 1) left rest = (groups, ipv4, tail)) :
    readGroups index (left + 1) s = (.ofNat group :: groups, ipv4, tail) := by
  rw [readGroups, hembedded, hgroup]
  simp only [hlater]

theorem readNumber_hexText (segment : UInt16) {rest : List Char}
    (hrest : ∀ c ∈ rest.head?, toDigit 16 c = none) :
    readNumber 16 4 65536 true (hexText segment ++ rest) = some (segment.toNat, rest) := by
  have hlength : (Nat.toDigits 16 segment.toNat).length ≤ 4 :=
    (Nat.length_toDigits_le_iff (by decide) (by decide)).mpr segment.toNat_lt
  exact readNumber_toDigits (by decide) hlength segment.toNat_lt nofun hrest

/-- Groups after the first. -/
def moreGroups (groups : List UInt16) : List Char :=
  groups.flatMap fun segment => ':' :: hexText segment

theorem moreGroups_head {groups : List UInt16} {rest : List Char} (hrest : Stops rest) :
    ∀ c ∈ (moreGroups groups ++ rest).head?, toDigit 16 c = none := by
  cases groups with
  | nil => exact hrest.head 16
  | cons segment groups =>
    rintro c ⟨⟩
    rfl

/-- Groups are read up to where they stop. -/
theorem readGroups_moreGroups {groups : List UInt16} {rest : List Char} (hrest : Stops rest)
    (hdot : '.' ∉ moreGroups groups ++ rest) {index left : Nat} (hindex : index ≠ 0)
    (hleft : groups.length ≤ left) :
    readGroups index left (moreGroups groups ++ rest) = (groups, false, rest) := by
  induction groups generalizing index left with
  | nil => exact readGroups_of_stops hrest hdot index left
  | cons segment groups ih =>
    obtain ⟨left, rfl⟩ : ∃ k, left = k + 1 := Nat.exists_eq_add_one_of_ne_zero (by
      rintro rfl
      simp at hleft)
    have hsplit : moreGroups (segment :: groups) ++ rest =
        ':' :: (hexText segment ++ (moreGroups groups ++ rest)) := by
      simp [moreGroups]
    have hread : readGroup index (':' :: (hexText segment ++ (moreGroups groups ++ rest))) =
        some (segment.toNat, moreGroups groups ++ rest) := by
      rw [readGroup, readSeparator_self hindex]
      exact readNumber_hexText segment (moreGroups_head hrest)
    have hlater := ih (by simp_all) index.succ_ne_zero (Nat.le_of_succ_le_succ hleft)
    have hembedded : readEmbedded index (left + 1) (moreGroups (segment :: groups) ++ rest) = none :=
      readEmbedded_of_no_dot hdot
    rw [hsplit] at hembedded ⊢
    rw [readGroups_of_group hembedded hread hlater, UInt16.ofNat_toNat]

theorem readGroups_groupsText {groups : List UInt16} {rest : List Char} (hrest : Stops rest)
    (hdot : '.' ∉ groupsText groups ++ rest) {left : Nat} (hleft : groups.length ≤ left) :
    readGroups 0 left (groupsText groups ++ rest) = (groups, false, rest) := by
  cases groups with
  | nil => exact readGroups_of_stops hrest hdot 0 left
  | cons segment groups =>
    obtain ⟨left, rfl⟩ : ∃ k, left = k + 1 := Nat.exists_eq_add_one_of_ne_zero (by
      rintro rfl
      simp at hleft)
    have hsplit : groupsText (segment :: groups) ++ rest =
        hexText segment ++ (moreGroups groups ++ rest) := by
      simp [groupsText, moreGroups]
    have hread : readGroup 0 (hexText segment ++ (moreGroups groups ++ rest)) =
        some (segment.toNat, moreGroups groups ++ rest) :=
      readNumber_hexText segment (moreGroups_head hrest)
    have hlater : readGroups 1 left (moreGroups groups ++ rest) = (groups, false, rest) :=
      readGroups_moreGroups hrest (by simp_all) Nat.one_ne_zero (Nat.le_of_succ_le_succ hleft)
    have hembedded : readEmbedded 0 (left + 1) (groupsText (segment :: groups) ++ rest) = none :=
      readEmbedded_of_no_dot hdot
    rw [hsplit] at hembedded ⊢
    rw [readGroups_of_group hembedded hread hlater, UInt16.ofNat_toNat]

/-! ## What is left out -/

/-- The span is a run of zeros within the groups, with `post` groups behind it. -/
def Span.Covers (span : Span) (groups post : List UInt16) : Prop :=
  ∃ before, groups = before ++ List.replicate span.len 0 ++ post ∧
    (span.len ≠ 0 → span.start = before.length)

theorem Span.Covers.concat {span : Span} {groups post : List UInt16} (h : span.Covers groups post)
    (segment : UInt16) : span.Covers (groups ++ [segment]) (post ++ [segment]) := by
  obtain ⟨before, rfl, hstart⟩ := h
  exact ⟨before, by simp, hstart⟩

/-- The invariant of the search: the longest run lies within the groups seen, and the current one
ends them. -/
theorem spans_findZeroes (groups : List UInt16) :
    (∃ post, (findZeroes groups).1.Covers groups post) ∧ (findZeroes groups).2.Covers groups [] := by
  induction groups using List.reverseRecOn with
  | nil => exact ⟨⟨[], [], rfl, nofun⟩, [], rfl, nofun⟩
  | append_singleton groups segment ih =>
    obtain ⟨⟨post, hlongest⟩, hcurrent⟩ := ih
    have hstep : findZeroes (groups ++ [segment]) =
        Span.next (findZeroes groups) (segment, groups.length) := by
      simp [findZeroes, List.zipIdx_append]
    rw [hstep]
    generalize findZeroes groups = spans at hlongest hcurrent
    obtain ⟨longest, current⟩ := spans
    by_cases hzero : segment = 0
    · subst hzero
      have hnext : Span.Covers ⟨if current.len = 0 then groups.length else current.start,
          current.len + 1⟩ (groups ++ [0]) [] := by
        obtain ⟨before, rfl, hstart⟩ := hcurrent
        refine ⟨before, by simp [List.replicate_succ'], fun _ => ?_⟩
        dsimp only
        split_ifs with hlen
        · simp [hlen]
        · exact hstart hlen
      refine ⟨?_, hnext⟩
      by_cases hlonger : longest.len < current.len + 1
      · refine ⟨[], ?_⟩
        simpa only [Span.next, if_true, hlonger] using hnext
      · refine ⟨post ++ [0], ?_⟩
        simpa only [Span.next, if_true, hlonger, if_false] using hlongest.concat 0
    · simp only [Span.next, if_neg hzero]
      exact ⟨⟨post ++ [segment], hlongest.concat segment⟩, groups ++ [segment], by simp, nofun⟩

/-- The groups on both sides of the longest run give all of them. -/
theorem withZeroes_findZeroes {groups : List UInt16} (hlength : groups.length = 8)
    (hlong : 1 < (findZeroes groups).1.len) :
    let zeroes := (findZeroes groups).1
    (groups.take zeroes.start).length + (groups.drop (zeroes.start + zeroes.len)).length ≤ 6 ∧
      withZeroes (groups.take zeroes.start) (groups.drop (zeroes.start + zeroes.len)) = groups := by
  intro zeroes
  obtain ⟨post, before, hgroups, hstart⟩ := (spans_findZeroes groups).1
  have hstart' : zeroes.start = before.length := hstart (by omega)
  have hcovered : groups = before ++ (List.replicate zeroes.len 0 ++ post) := by
    rw [hgroups, List.append_assoc]
  have hcount : before.length + zeroes.len + post.length = 8 := by
    rw [← hlength]
    conv_rhs => rw [hcovered]
    simp [Nat.add_assoc]
  have htake : groups.take zeroes.start = before := by
    conv_lhs => rw [hcovered, hstart', List.take_left]
  have hdrop : groups.drop (zeroes.start + zeroes.len) = post := by
    conv_lhs => rw [hcovered, hstart', ← List.drop_drop, List.drop_left,
      List.drop_left' (List.length_replicate ..)]
  have hleft : 8 - post.length - before.length = zeroes.len := by omega
  have hlong' : 1 < zeroes.len := hlong
  refine ⟨by rw [htake, hdrop]; omega, ?_⟩
  rw [htake, hdrop, withZeroes, hleft, List.append_assoc]
  exact hcovered.symm

theorem ofGroups_toList (segments : Vector UInt16 8) : ofGroups segments.toList = segments := by
  refine Vector.ext fun i hi => ?_
  simp [ofGroups]

theorem fromBeBytes_bytes (segment : UInt16) :
    fromBeBytes (highByte segment) (lowByte segment) = segment := by
  have hlt := segment.toNat_lt
  have hvalue : 256 * (segment.toNat / 256 % 256) + segment.toNat % 256 = segment.toNat := by omega
  simp only [fromBeBytes, highByte, lowByte, UInt8.toNat_ofNat', Nat.reducePow, hvalue,
    UInt16.ofNat_toNat]

/-! ## Round trip -/

/-- A colon is read as nothing. -/
theorem colon_head (radix : Nat) (rest : List Char) :
    ∀ c ∈ (':' :: rest).head?, toDigit radix c = none := by
  rintro c ⟨⟩
  rfl

theorem readIpv6Addr_mapped {segments : Vector UInt16 8} {ipv4 : Vector UInt8 4}
    (h : toIpv4Mapped segments = some ipv4) :
    readIpv6Addr ("::ffff:".toList ++ ipv4Text ipv4) = some (segments, []) := by
  have htext : "::ffff:".toList ++ ipv4Text ipv4 =
      ':' :: ':' :: (hexText 0xffff ++ ':' :: ipv4Text ipv4) := rfl
  -- Before `::` there is nothing; after it, a group and then the dotted form.
  have hhead : readGroups 0 8 (':' :: ':' :: (hexText 0xffff ++ ':' :: ipv4Text ipv4)) =
      ([], false, ':' :: ':' :: (hexText 0xffff ++ ':' :: ipv4Text ipv4)) := by
    have hnone : readEmbedded 0 8 (':' :: ':' :: (hexText 0xffff ++ ':' :: ipv4Text ipv4)) = none :=
      readIpv4Addr_of_head (colon_head 10 _)
    rw [readGroups, hnone, readGroup_of_stops (.zeroes _)]
  have hfirst : readEmbedded 0 7 (hexText 0xffff ++ ':' :: ipv4Text ipv4) = none := by
    refine readIpv4Addr_of_head ?_
    rintro c ⟨⟩
    decide
  have hsecond : readEmbedded 1 6 (':' :: ipv4Text ipv4) = some (ipv4, []) := by
    rw [readEmbedded, if_pos (by decide), readSeparator_self (by decide), readIpv4Addr_ipv4Text]
  have htail : readGroups 0 7 (hexText 0xffff ++ ':' :: ipv4Text ipv4) =
      ([0xffff, fromBeBytes ipv4[0] ipv4[1], fromBeBytes ipv4[2] ipv4[3]], true, []) := by
    have hgroup : readGroup 0 (hexText 0xffff ++ ':' :: ipv4Text ipv4) =
        some ((0xffff : UInt16).toNat, ':' :: ipv4Text ipv4) :=
      readNumber_hexText 0xffff (colon_head 16 _)
    have hlast : readGroups 1 6 (':' :: ipv4Text ipv4) =
        ([fromBeBytes ipv4[0] ipv4[1], fromBeBytes ipv4[2] ipv4[3]], true, []) := by
      rw [readGroups, hsecond]
    exact readGroups_of_group hfirst hgroup hlast
  -- Together with the five zeros left out, these are the segments.
  have hgroups : withZeroes [] [0xffff, fromBeBytes ipv4[0] ipv4[1], fromBeBytes ipv4[2] ipv4[3]] =
      segments.toList := by
    unfold toIpv4Mapped at h
    split_ifs at h with hzeros
    obtain rfl := Option.some.inj h
    have hlast : segments.toList.drop 6 = [segments[6], segments[7]] := by
      rw [List.drop_eq_getElem_cons (by simp), List.drop_eq_getElem_cons (by simp)]
      simp
    rw [← List.take_append_drop 6 segments.toList, hzeros, hlast]
    simp [fromBeBytes_bytes, withZeroes]
  rw [htext, readIpv6Addr, hhead]
  simp only [List.length_nil, htail, hgroups, ofGroups_toList, Nat.reduceEqDiff, if_false]
  rfl

theorem mem_groupsText {groups : List UInt16} {c : Char} (h : c ∈ groupsText groups) :
    isAsciiHexdigit c = true ∨ c = ':' := by
  have hhex : ∀ segment, c ∈ hexText segment → isAsciiHexdigit c = true := by
    intro segment hc
    obtain ⟨d, hd, rfl⟩ := exists_digit_of_mem_toDigits (by decide) hc
    have hall : ∀ d < 16, isAsciiHexdigit d.digitChar = true := by decide
    exact hall d hd
  cases groups with
  | nil => cases h
  | cons first tail =>
    rcases List.mem_append.mp h with h | h
    · exact .inl (hhex first h)
    · obtain ⟨segment, -, h⟩ := List.mem_flatMap.mp h
      rcases List.mem_cons.mp h with h | h
      · exact .inr h
      · exact .inl (hhex segment h)

theorem dot_not_mem_groupsText (groups : List UInt16) : '.' ∉ groupsText groups := by
  intro h
  rcases mem_groupsText h with h | h
  · exact absurd h (by decide)
  · cases h

/-- A printed IPv6 address is read, and is not one of IPv4. -/
theorem read_ipv6Text (segments : Vector UInt16 8) :
    readIpv4Addr (ipv6Text segments) = none ∧
      readIpv6Addr (ipv6Text segments) = some (segments, []) := by
  unfold ipv6Text
  cases hmapped : toIpv4Mapped segments with
  | some ipv4 => exact ⟨readIpv4Addr_of_head (colon_head 10 _), readIpv6Addr_mapped hmapped⟩
  | none =>
    have hlength : segments.toList.length = 8 := by simp
    dsimp only
    split_ifs with hlong
    · obtain ⟨hsides, hgroups⟩ := withZeroes_findZeroes hlength hlong
      generalize segments.toList.take (findZeroes segments.toList).1.start = head at hsides hgroups
      generalize segments.toList.drop ((findZeroes segments.toList).1.start +
        (findZeroes segments.toList).1.len) = tail at hsides hgroups
      have htail : '.' ∉ groupsText tail ++ [] := by simpa using dot_not_mem_groupsText tail
      have hdot : '.' ∉ groupsText head ++ ':' :: ':' :: groupsText tail := by
        simpa using ⟨dot_not_mem_groupsText head, dot_not_mem_groupsText tail⟩
      have hreadTail : readGroups 0 (8 - (head.length + 1)) (groupsText tail ++ []) =
          (tail, false, []) :=
        readGroups_groupsText .nil htail (by omega)
      rw [List.append_nil] at hreadTail
      refine ⟨readIpv4Addr_of_no_dot hdot, ?_⟩
      rw [readIpv6Addr, readGroups_groupsText (.zeroes _) hdot (by omega)]
      simp only [hreadTail, hgroups, ofGroups_toList]
      rw [if_neg (by omega)]
      rfl
    · have hdot : '.' ∉ groupsText segments.toList ++ [] := by
        simpa using dot_not_mem_groupsText segments.toList
      have hread := readGroups_groupsText .nil hdot (Nat.le_of_eq hlength)
      rw [List.append_nil] at hdot hread
      refine ⟨readIpv4Addr_of_no_dot hdot, ?_⟩
      rw [readIpv6Addr, hread]
      simp only [hlength, if_true, ofGroups_toList]

/-- **Round trip.** What is printed is read back. -/
theorem parseIpAddr_ipAddrToString (ip : IpAddr) : parseIpAddr (ipAddrToString ip) = some ip := by
  cases ip with
  | v4 octets =>
    rw [parseIpAddr, ipAddrToString, String.toList_ofList, readIpv4Addr_ipv4Text]
    rfl
  | v6 segments =>
    obtain ⟨hfirst, hread⟩ := read_ipv6Text segments
    rw [parseIpAddr, ipAddrToString, String.toList_ofList, hfirst, hread]
    rfl

theorem ipAddrToString_injective : Function.Injective ipAddrToString := by
  intro ip ip' h
  have hparse := congrArg parseIpAddr h
  rwa [parseIpAddr_ipAddrToString, parseIpAddr_ipAddrToString, Option.some.injEq] at hparse

theorem mem_ipv4Text {octets : Vector UInt8 4} {c : Char} (h : c ∈ ipv4Text octets) :
    isAsciiHexdigit c = true ∨ c = '.' := by
  have hdigit : ∀ octet, c ∈ octetText octet → isAsciiHexdigit c = true := by
    intro octet hc
    simp [isAsciiHexdigit, Nat.isDigit_of_mem_toDigits (by decide) (by decide) hc]
  simp only [ipv4Text, List.mem_append, List.mem_cons] at h
  rcases h with h | rfl | h | rfl | h | rfl | h
  · exact .inl (hdigit _ h)
  · exact .inr rfl
  · exact .inl (hdigit _ h)
  · exact .inr rfl
  · exact .inl (hdigit _ h)
  · exact .inr rfl
  · exact .inl (hdigit _ h)

/-- An address is printed in hex digits, dots and colons. -/
theorem mem_ipAddrToString {ip : IpAddr} {c : Char} (h : c ∈ (ipAddrToString ip).toList) :
    isAsciiHexdigit c = true ∨ c = '.' ∨ c = ':' := by
  have hgroups : ∀ groups, c ∈ groupsText groups →
      isAsciiHexdigit c = true ∨ c = '.' ∨ c = ':' := by
    intro groups hc
    exact (mem_groupsText hc).imp_right .inr
  have hoctets : ∀ octets, c ∈ ipv4Text octets →
      isAsciiHexdigit c = true ∨ c = '.' ∨ c = ':' := by
    intro octets hc
    exact (mem_ipv4Text hc).imp_right .inl
  cases ip with
  | v4 octets =>
    rw [ipAddrToString, String.toList_ofList] at h
    exact hoctets octets h
  | v6 segments =>
    rw [ipAddrToString, String.toList_ofList, ipv6Text] at h
    cases hmapped : toIpv4Mapped segments with
    | some ipv4 =>
      rw [hmapped] at h
      rcases List.mem_append.mp h with h | h
      · have hprefix : ∀ c ∈ "::ffff:".toList, isAsciiHexdigit c = true ∨ c = '.' ∨ c = ':' := by
          simp [isAsciiHexdigit]
        exact hprefix c h
      · exact hoctets ipv4 h
    | none =>
      rw [hmapped] at h
      dsimp only at h
      split_ifs at h
      · rcases List.mem_append.mp h with h | h
        · exact hgroups _ h
        · rcases List.mem_cons.mp h with h | h
          · exact .inr (.inr h)
          · rcases List.mem_cons.mp h with h | h
            · exact .inr (.inr h)
            · exact hgroups _ h
      · exact hgroups _ h

theorem not_mem_ipAddrToString {c : Char} (hdigit : isAsciiHexdigit c = false) (hdot : c ≠ '.')
    (hcolon : c ≠ ':') (ip : IpAddr) : c ∉ (ipAddrToString ip).toList := by
  intro h
  rcases mem_ipAddrToString h with h | h | h
  · exact absurd (hdigit.symm.trans h) (by decide)
  · exact hdot h
  · exact hcolon h

end RustStd
