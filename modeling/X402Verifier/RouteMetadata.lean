import X402Verifier.RustStd.Search
import X402Verifier.ExtProc

/-!
# Route metadata

What Envoy attaches to a matched route and sends as `xds.route_metadata`: a map from filter names to
fields, each field a string, a number, a bool, null, or a struct or list of such values. The format
is its protobuf TextFormat, printed on one line as a sequence of lexemes with a space after each.
Strings are printed between quotes, with quotes, backslashes and newlines as C escapes.

A lexeme is a key, a string value, or a word of the format. A word carries the proof that it cannot
be taken for the start of either: it has no `k`, no quote, and no `string_value:`. Every quote within
a printed key or string stands after a backslash, so the first that does not is the closing one
(`prefix_cEscape`).
-/

namespace X402Verifier

open RustStd

/-! ## Lexemes -/

/-- The filter whose route metadata names the policy. -/
def extProcFilter : String := "envoy.filters.http.ext_proc"

/-- The word a string value is printed after. -/
def stringMarker : List Char := "string_value:".toList

structure Inert (word : List Char) : Prop where
  key : 'k' ∉ word
  quote : '"' ∉ word
  marker : ¬ stringMarker <:+: word

instance (word : List Char) : Decidable (Inert word) :=
  decidable_of_iff ('k' ∉ word ∧ '"' ∉ word ∧ ¬ stringMarker <:+: word)
    ⟨fun ⟨hkey, hquote, hmarker⟩ => ⟨hkey, hquote, hmarker⟩,
      fun h => ⟨h.key, h.quote, h.marker⟩⟩

inductive Lexeme where
  | word (text : List Char) (inert : Inert text)
  | key (name : String)
  | string (value : String)

def word (text : String) (inert : Inert text.toList := by decide) : Lexeme :=
  .word text.toList inert

def opening : Lexeme := word "\x7b"

def closing : Lexeme := word "\x7d"

def cEscapeChar : Char → List Char
  | '"' => ['\\', '"']
  | '\\' => ['\\', '\\']
  | '\n' => ['\\', 'n']
  | c => [c]

def cEscape (s : List Char) : List Char := s.flatMap cEscapeChar

def Lexeme.print : Lexeme → List Char
  | .word text _ => text ++ [' ']
  | .key name => "key: \"".toList ++ cEscape name.toList ++ ['"', ' ']
  | .string value => stringMarker ++ [' ', '"'] ++ cEscape value.toList ++ ['"', ' ']

theorem Lexeme.print_word (text : List Char) (inert : Inert text) :
    (Lexeme.word text inert).print = text ++ [' '] := rfl

theorem Lexeme.print_key (name : String) :
    (Lexeme.key name).print = "key: \"".toList ++ cEscape name.toList ++ ['"', ' '] := rfl

theorem Lexeme.print_string (value : String) :
    (Lexeme.string value).print =
      stringMarker ++ [' ', '"'] ++ cEscape value.toList ++ ['"', ' '] := rfl

def print (lexemes : List Lexeme) : List Char := lexemes.flatMap Lexeme.print

/-! ## Escapes -/

/-- Printed as it is, without escapes. -/
def Plain (s : List Char) : Prop := ∀ c ∈ s, c ≠ '"' ∧ c ≠ '\\' ∧ c ≠ '\n'

theorem cEscapeChar_of_plain {c : Char} (h : c ≠ '"' ∧ c ≠ '\\' ∧ c ≠ '\n') :
    cEscapeChar c = [c] := by
  unfold cEscapeChar
  split <;> simp_all

theorem exists_escape_of_not_plain {c : Char} (h : ¬ (c ≠ '"' ∧ c ≠ '\\' ∧ c ≠ '\n')) :
    ∃ d, d ≠ 'k' ∧ cEscapeChar c = ['\\', d] := by
  unfold cEscapeChar
  split <;> simp_all

@[simp] theorem cEscape_nil : cEscape [] = [] := rfl

@[simp] theorem cEscape_cons (c : Char) (s : List Char) :
    cEscape (c :: s) = cEscapeChar c ++ cEscape s := rfl

theorem length_le_cEscape (s : List Char) : s.length ≤ (cEscape s).length := by
  induction s with
  | nil => simp
  | cons c s ih =>
    by_cases hc : c ≠ '"' ∧ c ≠ '\\' ∧ c ≠ '\n'
    · simpa [cEscapeChar_of_plain hc] using ih
    · obtain ⟨d, -, hd⟩ := exists_escape_of_not_plain hc
      simp [hd]
      omega

theorem cEscape_eq_self_iff {s : List Char} : cEscape s = s ↔ Plain s := by
  induction s with
  | nil => simp [Plain]
  | cons c s ih =>
    by_cases hc : c ≠ '"' ∧ c ≠ '\\' ∧ c ≠ '\n'
    · simp [Plain, cEscapeChar_of_plain hc, hc, ih]
    · obtain ⟨d, -, hd⟩ := exists_escape_of_not_plain hc
      refine iff_of_false (fun h => ?_) fun h => hc (h c List.mem_cons_self)
      have hlen := congrArg List.length h
      have := length_le_cEscape s
      simp [hd] at hlen
      omega

/-- A backslash is printed for each escape. -/
theorem plain_of_not_mem {s : List Char} (h : '\\' ∉ cEscape s) : Plain s := by
  induction s with
  | nil => simp [Plain]
  | cons c s ih =>
    obtain ⟨hc, hs⟩ := not_or.mp (mt List.mem_append.mpr h)
    refine List.forall_mem_cons.mpr ⟨by_contra fun hne => ?_, ih hs⟩
    obtain ⟨d, -, hd⟩ := exists_escape_of_not_plain hne
    simp [hd] at hc

theorem not_mem_cEscape {s : List Char} (h : '"' ∉ s) : '"' ∉ cEscape s := by
  intro hmem
  obtain ⟨c, hc, hprinted⟩ := List.mem_flatMap.mp hmem
  unfold cEscapeChar at hprinted
  split at hprinted
  · exact h hc
  · simp at hprinted
  · simp at hprinted
  · obtain rfl := List.mem_singleton.mp hprinted
    exact h hc

/-- The first quote of a pattern with no backslash before it is met at the end of a printed string,
not within. -/
theorem prefix_cEscape {s a b t : List Char} (ha : '"' ∉ a) (hlast : ¬ ['\\'] <:+ a)
    (h : a ++ '"' :: b <+: cEscape s ++ '"' :: t) : a = cEscape s ∧ b <+: t := by
  induction s generalizing a with
  | nil =>
    cases a with
    | nil => simpa using h
    | cons d a =>
      have hd : d = '"' := (List.cons_prefix_cons.mp h).1
      simp [hd] at ha
  | cons c s ih =>
    by_cases hc : c ≠ '"' ∧ c ≠ '\\' ∧ c ≠ '\n'
    · rw [cEscape_cons, cEscapeChar_of_plain hc] at h ⊢
      cases a with
      | nil => exact absurd (List.cons_prefix_cons.mp h).1.symm hc.1
      | cons d a =>
        obtain ⟨hhead, htail⟩ := List.cons_prefix_cons.mp h
        obtain ⟨rfl, hb⟩ := ih (fun hmem => ha (List.mem_cons_of_mem _ hmem))
          (fun hsuffix => hlast (hsuffix.trans (List.suffix_cons _ _))) htail
        exact ⟨by rw [hhead, List.singleton_append], hb⟩
    · obtain ⟨d, -, hd⟩ := exists_escape_of_not_plain hc
      rw [cEscape_cons, hd] at h ⊢
      match a with
      | [] => exact absurd (List.cons_prefix_cons.mp h).1 (by decide)
      | [e] =>
        obtain rfl := (List.cons_prefix_cons.mp h).1
        exact absurd List.suffix_rfl hlast
      | e :: f :: a =>
        obtain ⟨hfirst, htail⟩ := List.cons_prefix_cons.mp h
        obtain ⟨hsecond, htail⟩ := List.cons_prefix_cons.mp htail
        obtain ⟨rfl, hb⟩ := ih (fun hmem => ha (by simp [hmem]))
          (fun hsuffix => hlast (hsuffix.trans ⟨[e, f], rfl⟩)) htail
        exact ⟨by rw [hfirst, hsecond]; rfl, hb⟩

/-! ## Values -/

/-- The decimal text of a number. -/
structure NumberText where
  text : String
  numeric : text.toList.all ("0123456789+-.einfa".toList.contains ·) = true

theorem NumberText.inert (n : NumberText) : Inert n.text.toList where
  key h := absurd (List.all_eq_true.mp n.numeric _ h) (by decide)
  quote h := absurd (List.all_eq_true.mp n.numeric _ h) (by decide)
  marker h := absurd
    (List.all_eq_true.mp n.numeric _ (h.subset (by decide : 's' ∈ stringMarker))) (by decide)

inductive MetaValue where
  | string (value : String)
  | number (value : NumberText)
  | bool (value : Bool)
  | null
  | struct (fields : List (String × MetaValue))
  | list (values : List MetaValue)

/-- An entry of a map: what the map is called, the key, and the value's lexemes. -/
def entry (map : Lexeme) (name : String) (value : List Lexeme) : List Lexeme :=
  map :: opening :: .key name :: word "value" :: opening :: (value ++ [closing, closing])

mutual

def MetaValue.lexemes : MetaValue → List Lexeme
  | .string value => [.string value]
  | .number value => [word "number_value:", .word value.text.toList value.inert]
  | .bool value => [word "bool_value:", if value then word "true" else word "false"]
  | .null => [word "null_value:", word "NULL_VALUE"]
  | .struct fields => word "struct_value" :: opening :: (fieldLexemes fields ++ [closing])
  | .list values => word "list_value" :: opening :: (itemLexemes values ++ [closing])

def fieldLexemes : List (String × MetaValue) → List Lexeme
  | [] => []
  | (name, value) :: rest => entry (word "fields") name value.lexemes ++ fieldLexemes rest

def itemLexemes : List MetaValue → List Lexeme
  | [] => []
  | value :: rest => word "values" :: opening :: (value.lexemes ++ closing :: itemLexemes rest)

end

/-! ## The metadata of a route -/

/-- The filters' fields, in the order they are printed. -/
abbrev RouteMetadata : Type := List (String × List (String × MetaValue))

def RouteMetadata.lexemes : RouteMetadata → List Lexeme
  | [] => []
  | (filter, fields) :: rest =>
    entry (word "filter_metadata") filter (fieldLexemes fields) ++ RouteMetadata.lexemes rest

/-- The text of `xds.route_metadata`. -/
def RouteMetadata.textFormat (metadata : RouteMetadata) : String :=
  String.ofList (print metadata.lexemes)

/-- The policy the metadata names: the non-empty string `x402_policy` holds under the ext_proc
filter. -/
def RouteMetadata.policy (metadata : RouteMetadata) : Option String :=
  match (metadata.lookup extProcFilter).bind (List.lookup policyContextKey) with
  | some (.string name) => if name.isEmpty then none else some name
  | _ => none

example : RouteMetadata.textFormat [(extProcFilter, [(policyContextKey, .string "graphql")])] =
    "filter_metadata \x7b key: \"envoy.filters.http.ext_proc\" value \x7b " ++
      "fields \x7b key: \"x402_policy\" value \x7b string_value: \"graphql\" " ++
      "\x7d \x7d \x7d \x7d " := by
  decide +kernel

end X402Verifier
