import Mathlib.Data.List.TakeWhile
import X402Verifier.RouteMetadata

/-!
# Scanning route metadata for the policy

`parsePolicyFromTextFormat` does not parse the metadata. It looks for `key: "x402_policy"` and takes
the next `string_value`, and what it finds need not be the policy.

**Theorem (`policy_read_iff`).** The scan of a printed metadata gives its policy exactly when the
metadata is `Legible`: no key `x402_policy` is printed; or the first one printed is the ext_proc
filter's own and holds a string that is empty or printed as it is; or what follows the first one
happens to offer the policy (`Offers`), or offers none where there is none.

The proof follows the scan along the lexemes. No string or other key can be taken for the key
(`breakAt_policyKey`): a quote printed within one stands after a backslash. So the scan goes on
after the first lexeme that is the key, and reads `nextString` of the lexemes up to the next
(`parse_textFormat`).
-/

namespace X402Verifier

open RustStd

/-! ## Looking for the key -/

def Lexeme.isPolicyKey : Lexeme → Bool
  | .key name => name == policyContextKey
  | _ => false

@[simp] theorem isPolicyKey_key (name : String) :
    (Lexeme.key name).isPolicyKey = (name == policyContextKey) := rfl

@[simp] theorem isPolicyKey_word (text : String) (inert : Inert text.toList) :
    (word text inert).isPolicyKey = false := rfl

@[simp] theorem isPolicyKey_opening : opening.isPolicyKey = false := rfl

@[simp] theorem isPolicyKey_closing : closing.isPolicyKey = false := rfl

def policyKey : String := "key: \"x402_policy\""

/-- The lexemes after the first policy key, up to the next. -/
def afterPolicyKey : List Lexeme → Option (List Lexeme)
  | [] => none
  | lexeme :: rest =>
    if lexeme.isPolicyKey then some (rest.takeWhile (! ·.isPolicyKey)) else afterPolicyKey rest

theorem print_cons (lexeme : Lexeme) (rest : List Lexeme) :
    print (lexeme :: rest) = lexeme.print ++ print rest := rfl

theorem print_policyKey : (Lexeme.key policyContextKey).print = policyKey.toList ++ [' '] := by
  decide +kernel

theorem breakAt_policyKey_of_head {a : List Char} (h : 'k' ∉ a) (b : List Char) :
    breakAt policyKey.toList (a ++ b) =
      (breakAt policyKey.toList b).map (Prod.map (a ++ ·) id) :=
  breakAt_append_of_head h policyKey.toList.tail b

/-- The key is not found in a printed string, nor across its end. -/
theorem breakAt_policyKey_cEscape (s b : List Char) :
    breakAt policyKey.toList (cEscape s ++ '"' :: ' ' :: b) =
      (breakAt policyKey.toList b).map (Prod.map (cEscape s ++ ['"', ' '] ++ ·) id) := by
  induction s with
  | nil => exact breakAt_policyKey_of_head (a := ['"', ' ']) (by decide) b
  | cons c s ih =>
    by_cases hc : c ≠ '"' ∧ c ≠ '\\' ∧ c ≠ '\n'
    · have hstarts : ¬ policyKey.toList <+: c :: (cEscape s ++ '"' :: ' ' :: b) := by
        intro h
        -- what follows the closing quote is a space, not the name
        have hname := (prefix_cEscape (a := "ey: ".toList) (b := "x402_policy\"".toList)
          (by decide) (by decide) (List.cons_prefix_cons.mp h).2).2
        exact absurd (List.cons_prefix_cons.mp hname).1 (by decide)
      rw [cEscape_cons, cEscapeChar_of_plain hc, List.singleton_append, List.cons_append,
        breakAt_cons hstarts, ih, Option.map_map]
      rfl
    · obtain ⟨d, hk, hd⟩ := exists_escape_of_not_plain hc
      have hmem : 'k' ∉ ['\\', d] := by simp [hk.symm]
      rw [cEscape_cons, hd, List.append_assoc, breakAt_policyKey_of_head hmem, ih, Option.map_map]
      rfl

theorem breakAt_policyKey {lexeme : Lexeme} (h : lexeme.isPolicyKey = false) (b : List Char) :
    breakAt policyKey.toList (lexeme.print ++ b) =
      (breakAt policyKey.toList b).map (Prod.map (lexeme.print ++ ·) id) := by
  cases lexeme with
  | word text inert =>
    have hmem : 'k' ∉ text ++ [' '] := by simpa using inert.key
    exact breakAt_policyKey_of_head hmem b
  | string value =>
    have hmem : 'k' ∉ stringMarker ++ [' ', '"'] := by decide
    have hprint : ∀ t, Lexeme.print (.string value) ++ t =
        stringMarker ++ [' ', '"'] ++ (cEscape value.toList ++ '"' :: ' ' :: t) := by
      simp [Lexeme.print_string]
    rw [hprint, breakAt_policyKey_of_head hmem, breakAt_policyKey_cEscape, Option.map_map]
    congr 1
  | key name =>
    have hne : name ≠ policyContextKey := by simpa [Lexeme.isPolicyKey] using h
    have hprint : ∀ t, Lexeme.print (.key name) ++ t =
        'k' :: ("ey: \"".toList ++ (cEscape name.toList ++ '"' :: ' ' :: t)) := by
      intro t
      rw [Lexeme.print_key, List.append_assoc, List.append_assoc]
      rfl
    have hstarts : ¬ policyKey.toList <+:
        'k' :: ("ey: \"".toList ++ (cEscape name.toList ++ '"' :: ' ' :: b)) := by
      intro hkey
      have hname : "x402_policy".toList ++ ['"'] <+: cEscape name.toList ++ '"' :: ' ' :: b :=
        (List.prefix_append_right_inj "key: \"".toList).mp hkey
      have hescape := (prefix_cEscape (by decide) (by decide) hname).1
      have hplain : Plain name.toList := plain_of_not_mem (hescape ▸ by decide)
      rw [cEscape_eq_self_iff.mpr hplain] at hescape
      exact hne (String.toList_inj.mp hescape.symm)
    have hmem : 'k' ∉ "ey: \"".toList := by decide
    rw [hprint, breakAt_cons hstarts, breakAt_policyKey_of_head hmem, breakAt_policyKey_cEscape,
      Option.map_map, Option.map_map]
    congr 1

theorem print_of_isPolicyKey {lexeme : Lexeme} (h : lexeme.isPolicyKey = true) :
    lexeme.print = policyKey.toList ++ [' '] := by
  cases lexeme with
  | key name =>
    obtain rfl : name = policyContextKey := by simpa [Lexeme.isPolicyKey] using h
    exact print_policyKey
  | word text inert => simp [Lexeme.isPolicyKey] at h
  | string value => simp [Lexeme.isPolicyKey] at h

/-- The text up to the next policy key. -/
theorem firstPiece_policyKey (lexemes : List Lexeme) :
    firstPiece policyKey.toList (print lexemes) = print (lexemes.takeWhile (! ·.isPolicyKey)) := by
  induction lexemes with
  | nil => rfl
  | cons lexeme rest ih =>
    rw [print_cons]
    cases h : lexeme.isPolicyKey with
    | true =>
      rw [print_of_isPolicyKey h, List.append_assoc, firstPiece_self_append]
      simp [h, print]
    | false =>
      rw [firstPiece_append (breakAt_policyKey h _), ih]
      simp [h, print_cons]

theorem secondPiece_policyKey (lexemes : List Lexeme) :
    secondPiece policyKey (print lexemes) = (afterPolicyKey lexemes).map (' ' :: print ·) := by
  rw [secondPiece_eq]
  induction lexemes with
  | nil => rfl
  | cons lexeme rest ih =>
    rw [print_cons, afterPolicyKey]
    cases h : lexeme.isPolicyKey with
    | true =>
      have hspace : firstPiece policyKey.toList (' ' :: print rest) =
          ' ' :: firstPiece policyKey.toList (print rest) :=
        firstPiece_append (a := [' ']) (breakAt_policyKey_of_head (by decide) _)
      rw [print_of_isPolicyKey h, List.append_assoc, breakAt_self_append]
      simp [hspace, firstPiece_policyKey]
    | false =>
      rw [breakAt_policyKey h, Option.map_map, if_neg (by simp), ← ih]
      rfl

/-! ## Looking for the string value -/

def upToQuote (text : List Char) : List Char := text.takeWhile (· ≠ '"')

/-- What is read after an opening quote: the text up to the next, unless the marker comes first. -/
def readQuoted (text : List Char) : Option String :=
  if stringMarker <:+: upToQuote text ∨ (upToQuote text).isEmpty then none
  else some (String.ofList (upToQuote text))

/-- The words up to a key and its opening quote, unless a string value comes first. -/
def wordsToKey : List Lexeme → Option (List Char)
  | .word text _ :: rest => (wordsToKey rest).map (text ++ ' ' :: ·)
  | .key _ :: _ => some "key: ".toList
  | _ => none

/-- What the scan takes for the next string value. It is the next string printed, as escaped, up to
a quote; but a key that has the marker in it is read from there on, to the quotes that come next. -/
def nextString : List Lexeme → Option String
  | [] => none
  | .word _ _ :: rest => nextString rest
  | .string value :: _ => readQuoted (cEscape value.toList)
  | .key name :: rest =>
    match breakAt stringMarker (cEscape name.toList) with
    | none => nextString rest
    | some (_, after) =>
      match breakAt ['"'] after with
      | some (before, inside) => if stringMarker <:+: before then none else readQuoted inside
      | none =>
        if stringMarker <:+: after then none
        else (wordsToKey rest).map fun text => String.ofList (' ' :: text)

/-- The scan from the marker on. -/
def readAfterMarker (afterMarker : List Char) : Option String := do
  let (_, rest) ← breakAt ['"'] afterMarker
  let (value, _) ← breakAt ['"'] rest
  if value.isEmpty then none else some (String.ofList value)

theorem parsePolicyFromTextFormat_eq (text : String) :
    parsePolicyFromTextFormat text =
      (secondPiece policyKey text.toList).bind fun afterKey =>
        (secondPiece "string_value:" afterKey).bind readAfterMarker := rfl

theorem not_mem_upToQuote (text : List Char) : '"' ∉ upToQuote text := by
  intro hmem
  simpa using (List.mem_takeWhile_imp hmem)

theorem exists_quote_append (text tail : List Char) :
    ∃ rest, text ++ '"' :: tail = upToQuote text ++ '"' :: rest := by
  induction text with
  | nil => exact ⟨tail, rfl⟩
  | cons c text ih =>
    by_cases hc : c = '"'
    · exact ⟨text ++ '"' :: tail, by simp [upToQuote, hc]⟩
    · obtain ⟨rest, hrest⟩ := ih
      exact ⟨rest, by simp [upToQuote, hc, hrest]⟩

theorem readAfterMarker_eq (text : List Char) :
    readAfterMarker text = (breakAt ['"'] text).bind fun opened =>
      (breakAt ['"'] opened.2).bind fun closed =>
        if closed.1.isEmpty then none else some (String.ofList closed.1) := rfl

/-- The scan reads what is quoted next. -/
theorem readAfterMarker_firstPiece {before : List Char} (h : '"' ∉ before) (text tail : List Char) :
    readAfterMarker (firstPiece stringMarker (before ++ '"' :: (text ++ '"' :: tail))) =
      if stringMarker <:+: before then none else readQuoted text := by
  rw [readAfterMarker_eq, breakAt_firstPiece (by decide) (by decide) h]
  split_ifs with hmarker
  · rfl
  obtain ⟨rest, hrest⟩ := exists_quote_append text tail
  rw [Option.bind_some, hrest,
    breakAt_firstPiece (by decide) (by decide) (not_mem_upToQuote text), readQuoted]
  by_cases hin : stringMarker <:+: upToQuote text <;> simp [hin]

/-- What stands before the next quote, when a string value does not come first. -/
theorem breakAt_wordsToKey (lexemes : List Lexeme) :
    (breakAt ['"'] (firstPiece stringMarker (print lexemes))).map Prod.fst =
      wordsToKey lexemes := by
  induction lexemes with
  | nil => rfl
  | cons lexeme rest ih =>
    rw [print_cons]
    cases lexeme with
    | word text inert =>
      have hquote : '"' ∉ text ++ [' '] := by simpa using inert.quote
      rw [Lexeme.print_word, wordsToKey, ← ih,
        firstPiece_append (breakAt_append_sep (by decide) (by decide) inert.marker _),
        breakAt_append_of_head hquote, Option.map_map, Option.map_map]
      congr 1
      funext p
      simp
    | string value =>
      rw [Lexeme.print_string, List.append_assoc, List.append_assoc, List.append_assoc,
        firstPiece_self_append]
      rfl
    | key name =>
      have hkey : ∀ t, "key: \"".toList ++ t = "key: ".toList ++ '"' :: t := fun _ => rfl
      rw [Lexeme.print_key, List.append_assoc, List.append_assoc, hkey,
        breakAt_firstPiece (by decide) (by decide) (by decide), if_neg (by decide)]
      rfl

theorem readAfterMarker_key (after : List Char) (rest : List Lexeme) :
    readAfterMarker (firstPiece stringMarker (after ++ '"' :: ' ' :: print rest)) =
      match breakAt ['"'] after with
      | some (before, inside) => if stringMarker <:+: before then none else readQuoted inside
      | none =>
        if stringMarker <:+: after then none
        else (wordsToKey rest).map fun text => String.ofList (' ' :: text) := by
  by_cases hquote : '"' ∈ after
  · obtain ⟨before, inside, rfl, hbefore⟩ := List.eq_append_cons_of_mem hquote
    rw [breakAt_singleton hbefore, List.append_assoc]
    exact readAfterMarker_firstPiece hbefore inside (' ' :: print rest)
  · -- the key's own closing quote opens what is read
    rw [breakAt_singleton_eq_none_iff.mpr hquote, readAfterMarker_eq,
      breakAt_firstPiece (by decide) (by decide) hquote]
    by_cases hmarker : stringMarker <:+: after
    · simp [hmarker]
    have hspace : firstPiece stringMarker ([' '] ++ print rest) =
        [' '] ++ firstPiece stringMarker (print rest) :=
      firstPiece_append (breakAt_append_sep (a := []) (by decide) (by decide) (by decide) _)
    have hskip := breakAt_append_of_head (c := '"') (a := [' ']) (by decide) []
      (firstPiece stringMarker (print rest))
    rw [List.singleton_append] at hspace
    simp only [hmarker, if_false, Option.bind_some]
    rw [hspace, hskip, ← breakAt_wordsToKey]
    cases breakAt ['"'] (firstPiece stringMarker (print rest)) <;> rfl

theorem secondPiece_marker (lexemes : List Lexeme) :
    (secondPiece "string_value:" (print lexemes)).bind readAfterMarker = nextString lexemes := by
  induction lexemes with
  | nil => rfl
  | cons lexeme rest ih =>
    rw [print_cons]
    cases lexeme with
    | word text inert =>
      rw [Lexeme.print_word, secondPiece_append
        (breakAt_append_sep (by decide) (by decide) inert.marker _), ih, nextString]
    | string value =>
      have hprint : (Lexeme.string value).print ++ print rest =
          stringMarker ++ ([' '] ++ '"' :: (cEscape value.toList ++ '"' :: ' ' :: print rest)) := by
        simp [Lexeme.print_string]
      rw [hprint, secondPiece_eq, show "string_value:".toList = stringMarker from rfl,
        breakAt_self_append, Option.map_some, Option.bind_some,
        readAfterMarker_firstPiece (by decide), if_neg (by decide), nextString]
    | key name =>
      have hkey : ∀ t, "key: \"".toList ++ t = "key: ".toList ++ ['"'] ++ t := fun _ => rfl
      rw [Lexeme.print_key, List.append_assoc, List.append_assoc, hkey, secondPiece_append
        (breakAt_append_sep (by decide) (by decide) (by decide) _), nextString]
      cases hfound : breakAt stringMarker (cEscape name.toList) with
      | none =>
        have hsplit : cEscape name.toList ++ (['"', ' '] ++ print rest) =
            cEscape name.toList ++ ['"'] ++ ([] ++ [' '] ++ print rest) := by simp
        rw [hsplit, secondPiece_append (breakAt_append_sep (by decide) (by decide)
          (breakAt_eq_none_iff.mp hfound) _), secondPiece_append
          (breakAt_append_sep (by decide) (by decide) (by decide) _), ih]
      | some p =>
        obtain ⟨before, after⟩ := p
        rw [secondPiece_eq, show "string_value:".toList = stringMarker from rfl,
          breakAt_append_of_some hfound, Option.map_some, Option.bind_some]
        exact readAfterMarker_key after rest

/-- The scan of a printed metadata reads the next string after the first policy key. -/
theorem parse_textFormat (metadata : RouteMetadata) :
    parsePolicyFromTextFormat metadata.textFormat =
      (afterPolicyKey metadata.lexemes).bind nextString := by
  rw [parsePolicyFromTextFormat_eq, RouteMetadata.textFormat, String.toList_ofList,
    secondPiece_policyKey, Option.bind_map]
  congr 1
  funext lexemes
  have hspace : secondPiece "string_value:" ([' '] ++ print lexemes) =
      secondPiece "string_value:" (print lexemes) :=
    secondPiece_append (breakAt_append_sep (a := []) (by decide) (by decide) (by decide) _)
  exact (congrArg (Option.bind · readAfterMarker) hspace).trans (secondPiece_marker lexemes)

/-! ## When the policy is read -/

theorem upToQuote_of_not_mem {text : List Char} (h : '"' ∉ text) : upToQuote text = text := by
  refine List.takeWhile_eq_self_iff.mpr fun c hc => ?_
  have hne : c ≠ '"' := fun heq => h (heq ▸ hc)
  simpa using hne

/-- A string is read as it is when it is printed so, and the marker is not in it. -/
theorem readQuoted_cEscape_iff {name : String} (hne : name ≠ "") :
    readQuoted (cEscape name.toList) = some name ↔
      Plain name.toList ∧ ¬ stringMarker <:+: name.toList := by
  constructor
  · intro h
    unfold readQuoted at h
    split_ifs at h with hcut
    have hread : name.toList = upToQuote (cEscape name.toList) := by
      rw [← String.toList_ofList (l := upToQuote _), Option.some.inj h]
    have hquote : '"' ∉ name.toList := by
      rw [hread]
      exact not_mem_upToQuote _
    have hplain : Plain name.toList := by
      rw [upToQuote_of_not_mem (not_mem_cEscape hquote)] at hread
      exact cEscape_eq_self_iff.mp hread.symm
    exact ⟨hplain, fun hmarker => hcut (.inl (hread ▸ hmarker))⟩
  · rintro ⟨hplain, hmarker⟩
    have hquote : '"' ∉ name.toList := fun hmem => (hplain _ hmem).1 rfl
    have hnonempty : ¬ name.toList.isEmpty := by simpa using hne
    rw [cEscape_eq_self_iff.mpr hplain, readQuoted, upToQuote_of_not_mem hquote,
      if_neg (by simp [hmarker, hne]), String.ofList_toList]

/-- The string of the field `x402_policy`, when no other policy key is printed before it. -/
def fieldsOwnFirst : List (String × MetaValue) → Option String
  | [] => none
  | (name, value) :: rest =>
    if name = policyContextKey then
      match value with
      | .string policy => some policy
      | _ => none
    else if value.lexemes.any Lexeme.isPolicyKey then none
    else fieldsOwnFirst rest

/-- The string of the ext_proc filter's field `x402_policy`, when no other policy key is printed
before it. -/
def RouteMetadata.ownFirst : RouteMetadata → Option String
  | [] => none
  | (filter, fields) :: rest =>
    if filter = extProcFilter then fieldsOwnFirst fields
    else if filter = policyContextKey ∨ (fieldLexemes fields).any Lexeme.isPolicyKey then none
    else RouteMetadata.ownFirst rest

/-- Up to its first quote, the text is this. -/
def UpTo (cut text : List Char) : Prop := '"' ∉ cut ∧ (text = cut ∨ cut ++ ['"'] <+: text)

/-- What is quoted reads as this policy, up to its first quote. It reads as none if nothing precedes
that, or the marker does. -/
def ReadsAs (text : List Char) : Option String → Prop
  | some name => UpTo name.toList text ∧ name ≠ "" ∧ ¬ stringMarker <:+: name.toList
  | none => ∃ cut, UpTo cut text ∧ (cut = [] ∨ stringMarker <:+: cut)

/-- What is printed after a policy key offers this policy. The next string does, as it is printed;
without one there is none. Only a key that has the marker in it can come before the string. Then the
next quote opens what is read: one that is printed within the key, or else the one that closes it. -/
def Offers (policy : Option String) : List Lexeme → Prop
  | [] => policy = none
  | .word _ _ :: rest => Offers policy rest
  | .string value :: _ => ReadsAs (cEscape value.toList) policy
  | .key name :: rest =>
    match breakAt stringMarker (cEscape name.toList) with
    | none => Offers policy rest
    | some (_, after) =>
      match breakAt ['"'] after with
      | some (before, inside) =>
        stringMarker <:+: before ∧ policy = none ∨ ¬ stringMarker <:+: before ∧ ReadsAs inside policy
      | none =>
        stringMarker <:+: after ∧ policy = none ∨
          ¬ stringMarker <:+: after ∧
            policy = (wordsToKey rest).map fun text => String.ofList (' ' :: text)

/-- The scan reads the policy of the metadata: no policy key is printed; or the first is the ext_proc
filter's own and its string is empty or printed as it is, without the marker; or what follows the
first offers the policy that the metadata has, which may be none. -/
def RouteMetadata.Legible (metadata : RouteMetadata) : Prop :=
  match metadata.ownFirst, afterPolicyKey metadata.lexemes with
  | some name, _ => name = "" ∨ Plain name.toList ∧ ¬ stringMarker <:+: name.toList
  | none, none => True
  | none, some lexemes => Offers metadata.policy lexemes

theorem upToQuote_append_quote {before : List Char} (h : '"' ∉ before) (inside : List Char) :
    upToQuote (before ++ '"' :: inside) = before := by
  rw [upToQuote, List.takeWhile_append_of_pos fun c hc => ?_]
  · simp
  · have hne : c ≠ '"' := fun heq => h (heq ▸ hc)
    simpa using hne

theorem upTo_iff {cut text : List Char} : UpTo cut text ↔ upToQuote text = cut := by
  constructor
  · rintro ⟨hquote, rfl | ⟨inside, rfl⟩⟩
    · exact upToQuote_of_not_mem hquote
    · rw [List.append_assoc]
      exact upToQuote_append_quote hquote inside
  · rintro rfl
    refine ⟨not_mem_upToQuote text, ?_⟩
    by_cases hquote : '"' ∈ text
    · obtain ⟨before, inside, rfl, hbefore⟩ := List.eq_append_cons_of_mem hquote
      rw [upToQuote_append_quote hbefore]
      exact .inr ⟨inside, by simp⟩
    · exact .inl (upToQuote_of_not_mem hquote).symm

theorem readQuoted_eq_iff {text : List Char} {policy : Option String} :
    readQuoted text = policy ↔ ReadsAs text policy := by
  unfold readQuoted
  cases policy with
  | none =>
    have hreads : ReadsAs text none ↔
        stringMarker <:+: upToQuote text ∨ (upToQuote text).isEmpty := by
      simp [ReadsAs, upTo_iff, or_comm]
    rw [hreads]
    split_ifs with hcut
    · exact iff_of_true rfl hcut
    · exact iff_of_false nofun hcut
  | some name =>
    rw [ReadsAs, upTo_iff]
    by_cases hcut : upToQuote text = name.toList
    · rw [hcut]
      simp [or_comm]
    · have hne : String.ofList (upToQuote text) ≠ name := by
        rintro rfl
        exact hcut String.toList_ofList.symm
      simp [hcut, hne]

theorem nextString_eq_iff {policy : Option String} {lexemes : List Lexeme} :
    nextString lexemes = policy ↔ Offers policy lexemes := by
  induction lexemes with
  | nil => exact eq_comm
  | cons lexeme rest ih =>
    cases lexeme with
    | word text inert => exact ih
    | string value => exact readQuoted_eq_iff
    | key name =>
      rw [nextString, Offers]
      cases breakAt stringMarker (cEscape name.toList) with
      | none => exact ih
      | some p =>
        obtain ⟨-, after⟩ := p
        dsimp only
        cases breakAt ['"'] after with
        | none =>
          dsimp only
          by_cases hmarker : stringMarker <:+: after <;> simp [hmarker, eq_comm]
        | some q =>
          obtain ⟨before, inside⟩ := q
          dsimp only
          by_cases hmarker : stringMarker <:+: before
          · simp [hmarker, eq_comm]
          · simpa [hmarker] using readQuoted_eq_iff

theorem afterPolicyKey_eq_none_iff {lexemes : List Lexeme} :
    afterPolicyKey lexemes = none ↔ lexemes.any Lexeme.isPolicyKey = false := by
  induction lexemes with
  | nil => simp [afterPolicyKey]
  | cons lexeme rest ih =>
    cases h : lexeme.isPolicyKey <;> simp [afterPolicyKey, h, ih]

theorem afterPolicyKey_append {before : List Lexeme}
    (h : before.any Lexeme.isPolicyKey = false) (rest : List Lexeme) :
    afterPolicyKey (before ++ rest) = afterPolicyKey rest := by
  induction before with
  | nil => rfl
  | cons lexeme before ih =>
    rw [List.any_cons, Bool.or_eq_false_iff] at h
    rw [List.cons_append, afterPolicyKey, if_neg (by simp [h.1]), ih h.2]

theorem any_entry (text : String) (inert : Inert text.toList) (name : String)
    (value : List Lexeme) :
    (entry (word text inert) name value).any Lexeme.isPolicyKey =
      (name == policyContextKey || value.any Lexeme.isPolicyKey) := by
  simp [entry]

/-- Each entry's lexemes up to the value, when its key is the policy key. -/
theorem afterPolicyKey_entry (text : String) (inert : Inert text.toList) (value rest : List Lexeme) :
    afterPolicyKey (entry (word text inert) policyContextKey value ++ rest) =
      some (word "value" :: opening ::
        (value ++ [closing, closing] ++ rest).takeWhile (! ·.isPolicyKey)) := rfl

theorem lookup_of_fieldsOwnFirst {fields : List (String × MetaValue)} {name : String}
    (h : fieldsOwnFirst fields = some name) :
    fields.lookup policyContextKey = some (.string name) := by
  induction fields with
  | nil => simp [fieldsOwnFirst] at h
  | cons field rest ih =>
    obtain ⟨key, value⟩ := field
    unfold fieldsOwnFirst at h
    by_cases hkey : key = policyContextKey
    · cases value <;> simp_all
    · have hne : (policyContextKey == key) = false := by simpa using Ne.symm hkey
      rw [if_neg hkey] at h
      split_ifs at h
      rw [List.lookup_cons, hne]
      exact ih h

theorem policy_of_ownFirst {metadata : RouteMetadata} {name : String}
    (h : metadata.ownFirst = some name) :
    metadata.policy = if name.isEmpty then none else some name := by
  have hfield : (metadata.lookup extProcFilter).bind (List.lookup policyContextKey) =
      some (.string name) := by
    induction metadata with
    | nil => simp [RouteMetadata.ownFirst] at h
    | cons filterEntry rest ih =>
      obtain ⟨filter, fields⟩ := filterEntry
      unfold RouteMetadata.ownFirst at h
      by_cases hfilter : filter = extProcFilter
      · rw [if_pos hfilter] at h
        rw [List.lookup_cons, hfilter, beq_self_eq_true]
        exact lookup_of_fieldsOwnFirst h
      · have hne : (extProcFilter == filter) = false := by simpa using Ne.symm hfilter
        rw [if_neg hfilter] at h
        split_ifs at h
        rw [List.lookup_cons, hne]
        exact ih h
  rw [RouteMetadata.policy, hfield]

/-- The ext_proc filter's own string is the next one after its key. -/
theorem nextString_of_fieldsOwnFirst {fields : List (String × MetaValue)} {name : String}
    (h : fieldsOwnFirst fields = some name) (tail : List Lexeme) :
    (afterPolicyKey (fieldLexemes fields ++ tail)).bind nextString =
      readQuoted (cEscape name.toList) := by
  induction fields with
  | nil => simp [fieldsOwnFirst] at h
  | cons field rest ih =>
    obtain ⟨key, value⟩ := field
    unfold fieldsOwnFirst at h
    by_cases hkey : key = policyContextKey
    · subst hkey
      cases value with
      | string value =>
        obtain rfl : value = name := by simpa using h
        rw [fieldLexemes, List.append_assoc, afterPolicyKey_entry]
        rfl
      | number | bool | null | struct | list => simp at h
    · rw [if_neg hkey] at h
      split_ifs at h with hvalue
      have hpass : (entry (word "fields") key value.lexemes).any Lexeme.isPolicyKey = false := by
        rw [any_entry]
        simpa [hkey] using hvalue
      rw [fieldLexemes, List.append_assoc, afterPolicyKey_append hpass, ih h]

theorem nextString_of_ownFirst {metadata : RouteMetadata} {name : String}
    (h : metadata.ownFirst = some name) :
    (afterPolicyKey metadata.lexemes).bind nextString = readQuoted (cEscape name.toList) := by
  induction metadata with
  | nil => simp [RouteMetadata.ownFirst] at h
  | cons filterEntry rest ih =>
    obtain ⟨filter, fields⟩ := filterEntry
    unfold RouteMetadata.ownFirst at h
    by_cases hfilter : filter = extProcFilter
    · rw [if_pos hfilter] at h
      have hpass : [word "filter_metadata", opening, .key filter, word "value", opening].any
          Lexeme.isPolicyKey = false := by
        rw [hfilter]
        decide
      have hsplit : RouteMetadata.lexemes ((filter, fields) :: rest) =
          [word "filter_metadata", opening, .key filter, word "value", opening] ++
            (fieldLexemes fields ++ ([closing, closing] ++ RouteMetadata.lexemes rest)) := by
        simp [RouteMetadata.lexemes, entry]
      rw [hsplit, afterPolicyKey_append hpass]
      exact nextString_of_fieldsOwnFirst h _
    · rw [if_neg hfilter] at h
      split_ifs at h with hother
      have hpass : (entry (word "filter_metadata") filter (fieldLexemes fields)).any
          Lexeme.isPolicyKey = false := by
        rw [any_entry]
        simpa [not_or] using hother
      rw [RouteMetadata.lexemes, afterPolicyKey_append hpass, ih h]

theorem lookup_of_any {fields : List (String × MetaValue)}
    (h : (fieldLexemes fields).any Lexeme.isPolicyKey = false) :
    fields.lookup policyContextKey = none := by
  induction fields with
  | nil => rfl
  | cons field rest ih =>
    obtain ⟨key, value⟩ := field
    rw [fieldLexemes, List.any_append, any_entry, Bool.or_eq_false_iff, Bool.or_eq_false_iff] at h
    have hne : (policyContextKey == key) = false := by
      rw [BEq.comm]
      exact h.1.1
    rw [List.lookup_cons, hne]
    exact ih h.2

theorem policy_of_any {metadata : RouteMetadata}
    (h : metadata.lexemes.any Lexeme.isPolicyKey = false) : metadata.policy = none := by
  have hfield : (metadata.lookup extProcFilter).bind (List.lookup policyContextKey) = none := by
    induction metadata with
    | nil => rfl
    | cons filterEntry rest ih =>
      obtain ⟨filter, fields⟩ := filterEntry
      rw [RouteMetadata.lexemes, List.any_append, any_entry, Bool.or_eq_false_iff,
        Bool.or_eq_false_iff] at h
      rw [List.lookup_cons]
      cases extProcFilter == filter with
      | true => exact lookup_of_any h.1.2
      | false => exact ih h.2
  rw [RouteMetadata.policy, hfield]

theorem policy_read_iff (metadata : RouteMetadata) :
    parsePolicyFromTextFormat metadata.textFormat = metadata.policy ↔ metadata.Legible := by
  rw [parse_textFormat, RouteMetadata.Legible]
  cases hown : metadata.ownFirst with
  | some name =>
    rw [nextString_of_ownFirst hown, policy_of_ownFirst hown]
    by_cases hne : name = ""
    · subst hne
      exact iff_of_true (by decide) (.inl rfl)
    · simpa [hne] using readQuoted_cEscape_iff hne
  | none =>
    cases hafter : afterPolicyKey metadata.lexemes with
    | none => simpa using (policy_of_any (afterPolicyKey_eq_none_iff.mp hafter)).symm
    | some lexemes => exact nextString_eq_iff

/-- A route whose ext_proc field holds a number, with a note under another filter. -/
def notedRoute : RouteMetadata :=
  [(extProcFilter, [(policyContextKey, .number ⟨"5", by decide⟩)]),
    ("envoy.filters.http.lua", [("note", .string "free")])]

/-- The note is taken for the policy the route does not have. -/
theorem note_read_as_policy :
    parsePolicyFromTextFormat notedRoute.textFormat = some "free" ∧ notedRoute.policy = none := by
  rw [parse_textFormat]
  decide +kernel

end X402Verifier
