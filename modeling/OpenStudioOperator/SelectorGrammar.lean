import OpenStudioOperator.AnalysisSlaFleet

/-!
# Label selectors as texts

The grammar of the Kubernetes API for the text of a label selector.

    selector    ::= requirement | requirement "," selector
    requirement ::= ["!"] KEY | KEY ("in" | "notin") "(" values ")"
                  | KEY ("=" | "==" | "!=") VALUE
    values      ::= VALUE | VALUE "," values

A value may be empty, and blanks separate tokens.
-/

namespace OpenStudioOperator
namespace SelectorGrammar

open SlaEviction

/-!
## Tokens
-/

inductive Token where
  | word (text : List Char)
  | comma
  | openParen
  | closeParen
  | equals
  | notEquals
  | bang
  | other (c : Char)
deriving DecidableEq, Repr

def isBlank (c : Char) : Bool := c = ' ' || c = '\t'

def isSpecial (c : Char) : Bool :=
  c = '=' || c = '!' || c = '(' || c = ')' || c = ',' || c = '>' || c = '<'

/-- A character of a word. -/
def isPlain (c : Char) : Bool := !isBlank c && !isSpecial c

/-- The word that ends here, if there is one. -/
def flush (word : List Char) (later : List Token) : List Token :=
  if word.isEmpty then later else .word word :: later

def symbol (c : Char) : Token :=
  if c = ',' then .comma
  else if c = '(' then .openParen
  else if c = ')' then .closeParen
  else if c = '=' then .equals
  else if c = '!' then .bang
  else .other c

/-- The tokens of the input after the characters of an unfinished word. -/
def lex (word : List Char) : List Char -> List Token
  | [] => flush word []
  | c :: rest =>
      if isBlank c then flush word (lex [] rest)
      else if isPlain c then lex (word ++ [c]) rest
      else
        match rest with
        | [] => flush word [symbol c]
        | d :: later =>
            if c = '=' && d = '=' then flush word (.equals :: lex [] later)
            else if c = '!' && d = '=' then flush word (.notEquals :: lex [] later)
            else flush word (symbol c :: lex [] (d :: later))

/-!
## Requirements
-/

/-- The values of a set and what follows its closing parenthesis. -/
def parseValues : List Token -> Option (List String × List Token)
  | .closeParen :: rest => some ([""], rest)
  | .comma :: rest => (parseValues rest).map fun p => ("" :: p.1, p.2)
  | .word v :: .closeParen :: rest => some ([String.ofList v], rest)
  | .word v :: .comma :: rest => (parseValues rest).map fun p => (String.ofList v :: p.1, p.2)
  | _ => none

/-- The value of an equation, which may be empty. -/
def parseExactValue : List Token -> String × List Token
  | .word v :: rest => (String.ofList v, rest)
  | rest => ("", rest)

def parseRestriction (key : String) : List Token -> Option (SelectorRequirement × List Token)
  | .equals :: rest =>
      let value := parseExactValue rest
      some (⟨key, .isIn [value.1]⟩, value.2)
  | .notEquals :: rest =>
      let value := parseExactValue rest
      some (⟨key, .notIn [value.1]⟩, value.2)
  | .word operator :: .openParen :: rest =>
      if operator = "in".toList then
        (parseValues rest).map fun p => (⟨key, .isIn p.1⟩, p.2)
      else if operator = "notin".toList then
        (parseValues rest).map fun p => (⟨key, .notIn p.1⟩, p.2)
      else none
  | rest => some (⟨key, .present⟩, rest)

def parseRequirement : List Token -> Option (SelectorRequirement × List Token)
  | .bang :: .word key :: rest => some (⟨String.ofList key, .absent⟩, rest)
  | .word key :: rest => parseRestriction (String.ofList key) rest
  | _ => none

/-- Requirements up to the end, separated by commas; there are at most as many
as tokens. -/
def parseRequirements : Nat -> List Token -> Option (List SelectorRequirement)
  | 0, _ => none
  | fuel + 1, tokens =>
      match parseRequirement tokens with
      | some (requirement, []) => some [requirement]
      | some (requirement, .comma :: rest) =>
          (parseRequirements fuel rest).map fun later => requirement :: later
      | _ => none

def parseSelector (text : String) : Option (List SelectorRequirement) :=
  let tokens := lex [] text.toList
  if tokens.isEmpty then some [] else parseRequirements tokens.length tokens

/-- The labels meet a selector text; one that cannot be read selects nothing. -/
def selects (text : String) (labels : Labels) : Bool :=
  match parseSelector text with
  | none => false
  | some requirements => requirements.all fun requirement => requirement.accepts labels

example : parseSelector "app=worker,tier notin (a, ),!gpu,x!=1" =
    some [⟨"app", .isIn ["worker"]⟩, ⟨"tier", .notIn ["a", ""]⟩, ⟨"gpu", .absent⟩,
      ⟨"x", .notIn ["1"]⟩] := by
  decide +kernel

/-!
## Reading what was written
-/

section Lexing

variable {word rest : List Char}

theorem lex_of_blank {c : Char} (h : isBlank c = true) (word rest : List Char) :
    lex word (c :: rest) = flush word (lex [] rest) := by
  rw [lex.eq_def]
  exact if_pos h

theorem lex_of_plain {c : Char} (h : isPlain c = true) (word rest : List Char) :
    lex word (c :: rest) = lex (word ++ [c]) rest := by
  have hblank : isBlank c = false := by
    unfold isPlain at h
    cases hc : isBlank c with
    | false => rfl
    | true => simp [hc] at h
  rw [lex.eq_def]
  simp only [hblank, h, Bool.false_eq_true, if_false, if_true]

theorem lex_plain (h : forall c, c ∈ word -> isPlain c = true) (start : List Char) :
    lex start (word ++ rest) = lex (start ++ word) rest := by
  induction word generalizing start with
  | nil => rw [List.nil_append, List.append_nil]
  | cons c later ih =>
      rw [List.cons_append, lex_of_plain (h c List.mem_cons_self),
        ih (fun d hd => h d (List.mem_cons_of_mem c hd)), List.append_assoc,
        List.singleton_append]

theorem lex_blank (word rest : List Char) :
    lex word (' ' :: rest) = flush word (lex [] rest) :=
  lex_of_blank (by decide) word rest

/-- A special character that the next one does not extend. -/
theorem lex_symbol {c : Char} (hblank : isBlank c = false) (hspecial : isPlain c = false)
    (hnext : rest.head? = some '=' -> c ≠ '=' ∧ c ≠ '!') (word : List Char) :
    lex word (c :: rest) = flush word (symbol c :: lex [] rest) := by
  rw [lex.eq_def]
  simp only [hblank, hspecial, Bool.false_eq_true, if_false]
  cases rest with
  | nil => rfl
  | cons d later =>
      have hone (c' : Char) (hc' : c' = '=' ∨ c' = '!') :
          (decide (c = c') && decide (d = '=')) = false := by
        by_cases hd : d = '='
        · have hne := hnext (by rw [hd]; rfl)
          rcases hc' with heq | heq
          · simp [heq, hne.1]
          · simp [heq, hne.2]
        · simp [hd]
      simp only [hone '=' (Or.inl rfl), hone '!' (Or.inr rfl), Bool.false_eq_true, if_false]

theorem lex_comma (word rest : List Char) :
    lex word (',' :: rest) = flush word (.comma :: lex [] rest) :=
  lex_symbol (by decide) (by decide) (fun _ => by decide) word

theorem lex_openParen (word rest : List Char) :
    lex word ('(' :: rest) = flush word (.openParen :: lex [] rest) :=
  lex_symbol (by decide) (by decide) (fun _ => by decide) word

theorem lex_closeParen (word rest : List Char) :
    lex word (')' :: rest) = flush word (.closeParen :: lex [] rest) :=
  lex_symbol (by decide) (by decide) (fun _ => by decide) word

theorem lex_equals (hnext : rest.head? ≠ some '=') (word : List Char) :
    lex word ('=' :: rest) = flush word (.equals :: lex [] rest) :=
  lex_symbol (by decide) (by decide) (fun h => absurd h hnext) word

theorem lex_bang (hnext : rest.head? ≠ some '=') (word : List Char) :
    lex word ('!' :: rest) = flush word (.bang :: lex [] rest) :=
  lex_symbol (by decide) (by decide) (fun h => absurd h hnext) word

/-- A text of the characters of a word; a key has at least one. -/
def PlainText (text : String) : Prop :=
  forall c, c ∈ text.toList -> isPlain c = true

instance decidablePlainText (text : String) : Decidable (PlainText text) :=
  decidable_of_iff (text.toList.all isPlain = true) List.all_eq_true

/-- A word starts with no '='. -/
theorem PlainText.head?_ne {text : String} (h : PlainText text)
    (hrest : rest.head? ≠ some '=') : (text.toList ++ rest).head? ≠ some '=' := by
  unfold PlainText at h
  cases hchars : text.toList with
  | nil => exact hrest
  | cons c later =>
      rw [hchars] at h
      intro hhead
      have hplain := h c List.mem_cons_self
      rw [Option.some.inj hhead] at hplain
      revert hplain
      decide

end Lexing

section RoundTrip

/-- The end of a requirement: the end of the text or a comma. -/
def Closed (rest : List Char) : Prop :=
  rest = [] ∨ exists later, rest = ',' :: later

theorem Closed.head?_ne {rest : List Char} (h : Closed rest) : rest.head? ≠ some '=' := by
  rcases h with hnil | ⟨later, hcons⟩
  · rw [hnil]
    exact nofun
  · rw [hcons]
    intro hhead
    cases hhead

theorem Closed.lex_flush {rest : List Char} (h : Closed rest) (word : List Char) :
    lex word rest = flush word (lex [] rest) := by
  rcases h with hnil | ⟨later, hcons⟩
  · rw [hnil]
    rfl
  · rw [hcons, lex_comma, lex_comma]
    rfl

/-- The same end, as tokens. -/
def ClosedTokens (tokens : List Token) : Prop :=
  tokens = [] ∨ exists later, tokens = .comma :: later

theorem Closed.tokens {rest : List Char} (h : Closed rest) : ClosedTokens (lex [] rest) := by
  rcases h with hnil | ⟨later, hcons⟩
  · rw [hnil]
    exact Or.inl rfl
  · rw [hcons, lex_comma]
    exact Or.inr ⟨_, rfl⟩

theorem flush_of_ne {word : List Char} (h : word ≠ []) (later : List Token) :
    flush word later = .word word :: later := by
  rw [flush, if_neg]
  rwa [List.isEmpty_iff]

/-- A text, as the values of a set are written. -/
theorem parseValues_lex {values : List String} (hne : values ≠ [])
    (hplain : forall v, v ∈ values -> PlainText v) (rest : List Char) :
    parseValues (lex [] ((String.intercalate "," values).toList ++ ')' :: rest)) =
      some (values, lex [] rest) := by
  induction values with
  | nil => exact absurd rfl hne
  | cons v later ih =>
      have hv := hplain v List.mem_cons_self
      cases later with
      | nil =>
          rw [String.intercalate_singleton, lex_plain hv, lex_closeParen, List.nil_append]
          by_cases hempty : v.toList = []
          · rw [hempty]
            have hnil : v = "" := String.toList_eq_nil_iff.mp hempty
            rw [hnil]
            rfl
          · rw [flush_of_ne hempty, parseValues, String.ofList_toList]
      | cons v' later =>
          have hrest := ih (List.cons_ne_nil _ _)
            fun w hw => hplain w (List.mem_cons_of_mem v hw)
          have htext : (String.intercalate "," (v :: v' :: later)).toList ++ ')' :: rest =
              v.toList ++ ',' :: ((String.intercalate "," (v' :: later)).toList ++
                ')' :: rest) := by
            rw [String.intercalate_cons_cons, String.toList_append, String.toList_append]
            simp
          rw [htext, lex_plain hv, lex_comma, List.nil_append]
          by_cases hempty : v.toList = []
          · rw [hempty]
            have hnil : v = "" := String.toList_eq_nil_iff.mp hempty
            simp only [flush, List.isEmpty_nil, if_true]
            rw [parseValues, hrest, hnil]
            rfl
          · rw [flush_of_ne hempty, parseValues, hrest, String.ofList_toList]
            rfl

/-- The forms in which requirements are written. -/
inductive Written : String -> SelectorRequirement -> Prop where
  | equation {key value : String} : PlainText key -> key ≠ "" -> PlainText value ->
      Written (key ++ "=" ++ value) ⟨key, .isIn [value]⟩
  | isIn {key : String} {values : List String} : PlainText key -> key ≠ "" ->
      values ≠ [] -> (forall v, v ∈ values -> PlainText v) ->
      Written (key ++ " in (" ++ String.intercalate "," values ++ ")") ⟨key, .isIn values⟩
  | notIn {key : String} {values : List String} : PlainText key -> key ≠ "" ->
      values ≠ [] -> (forall v, v ∈ values -> PlainText v) ->
      Written (key ++ " notin (" ++ String.intercalate "," values ++ ")") ⟨key, .notIn values⟩
  | present {key : String} : PlainText key -> key ≠ "" -> Written key ⟨key, .present⟩
  | absent {key : String} : PlainText key -> key ≠ "" -> Written ("!" ++ key) ⟨key, .absent⟩

variable {text key : String} {rest : List Char} {requirement : SelectorRequirement}

/-- A key before a character that ends it. -/
theorem lex_key (hplain : PlainText key) (hne : key ≠ "") {tokens : List Token}
    (hrest : forall word, lex word rest = flush word tokens) :
    lex [] (key.toList ++ rest) = .word key.toList :: tokens := by
  rw [lex_plain hplain, hrest, List.nil_append, flush_of_ne]
  rwa [ne_eq, String.toList_eq_nil_iff]

/-- A set operator and the values after it. -/
theorem lex_operator (operator : List Char) (hplain : forall c, c ∈ operator -> isPlain c = true)
    (hne : operator ≠ []) (word rest : List Char) :
    lex word (' ' :: (operator ++ ' ' :: '(' :: rest)) =
      flush word (.word operator :: .openParen :: lex [] rest) := by
  rw [lex_blank, lex_plain hplain, lex_blank, lex_openParen, List.nil_append, flush_of_ne hne]
  rfl

theorem parseExactValue_flush {tokens : List Token} (h : ClosedTokens tokens) (value : String) :
    parseExactValue (flush value.toList tokens) = (value, tokens) := by
  by_cases hempty : value.toList = []
  · rw [hempty, String.toList_eq_nil_iff.mp hempty]
    rcases h with hnil | ⟨later, hcons⟩
    · rw [hnil]
      rfl
    · rw [hcons]
      rfl
  · rw [flush_of_ne hempty, parseExactValue, String.ofList_toList]

/-- A written requirement is read back, up to the comma that ends it. -/
theorem Written.parseRequirement (h : Written text requirement) (hclosed : Closed rest) :
    parseRequirement (lex [] (text.toList ++ rest)) = some (requirement, lex [] rest) := by
  cases h with
  | @equation key value hkey hne hvalue =>
      have htext : (key ++ "=" ++ value).toList ++ rest =
          key.toList ++ '=' :: (value.toList ++ rest) := by
        simp [String.toList_append]
      have hlex := lex_key hkey hne
        (lex_equals (PlainText.head?_ne hvalue hclosed.head?_ne))
      rw [htext, hlex, SelectorGrammar.parseRequirement, parseRestriction, lex_plain hvalue,
        hclosed.lex_flush, List.nil_append]
      simp only [parseExactValue_flush hclosed.tokens, String.ofList_toList]
  | @isIn key values hkey hne hvalues hplain =>
      have htext : (key ++ " in (" ++ String.intercalate "," values ++ ")").toList ++ rest =
          key.toList ++ ' ' :: ("in".toList ++ ' ' :: '(' ::
            ((String.intercalate "," values).toList ++ ')' :: rest)) := by
        simp [String.toList_append]
      have hlex := lex_key hkey hne fun word => lex_operator "in".toList
        (List.all_eq_true.mp (by decide)) (by decide) word
          ((String.intercalate "," values).toList ++ ')' :: rest)
      rw [htext, hlex, SelectorGrammar.parseRequirement, parseRestriction, if_pos rfl,
        parseValues_lex hvalues hplain, String.ofList_toList]
      rfl
  | @notIn key values hkey hne hvalues hplain =>
      have htext : (key ++ " notin (" ++ String.intercalate "," values ++ ")").toList ++ rest =
          key.toList ++ ' ' :: ("notin".toList ++ ' ' :: '(' ::
            ((String.intercalate "," values).toList ++ ')' :: rest)) := by
        simp [String.toList_append]
      have hlex := lex_key hkey hne fun word => lex_operator "notin".toList
        (List.all_eq_true.mp (by decide)) (by decide) word
          ((String.intercalate "," values).toList ++ ')' :: rest)
      rw [htext, hlex, SelectorGrammar.parseRequirement, parseRestriction, if_neg (by decide),
        if_pos rfl, parseValues_lex hvalues hplain, String.ofList_toList]
      rfl
  | present hkey hne =>
      rw [lex_key hkey hne hclosed.lex_flush, SelectorGrammar.parseRequirement,
        String.ofList_toList]
      rcases hclosed.tokens with hnil | ⟨later, hcons⟩
      · rw [hnil]
        rfl
      · rw [hcons]
        rfl
  | @absent key hkey hne =>
      have htext : ("!" ++ key).toList ++ rest = '!' :: (key.toList ++ rest) := by
        simp [String.toList_append]
      rw [htext, lex_bang (PlainText.head?_ne hkey hclosed.head?_ne), flush,
        List.isEmpty_nil, if_pos rfl, lex_key hkey hne hclosed.lex_flush,
        SelectorGrammar.parseRequirement, String.ofList_toList]

theorem length_parseValues : forall {tokens rest : List Token} {values : List String},
    parseValues tokens = some (values, rest) -> rest.length < tokens.length := by
  intro tokens
  induction tokens using parseValues.induct with
  | case1 rest =>
      intro rest' values h
      rw [parseValues, Option.some.injEq, Prod.mk.injEq] at h
      rw [← h.2, List.length_cons]
      exact Nat.lt_succ_self _
  | case2 rest ih =>
      intro rest' values h
      rw [parseValues, Option.map_eq_some_iff] at h
      rcases h with ⟨p, hp, heq⟩
      rw [Prod.mk.injEq] at heq
      have hshorter := ih hp
      rw [← heq.2, List.length_cons]
      lia
  | case3 v rest =>
      intro rest' values h
      rw [parseValues, Option.some.injEq, Prod.mk.injEq] at h
      rw [← h.2, List.length_cons, List.length_cons]
      lia
  | case4 v rest ih =>
      intro rest' values h
      rw [parseValues, Option.map_eq_some_iff] at h
      rcases h with ⟨p, hp, heq⟩
      rw [Prod.mk.injEq] at heq
      have hshorter := ih hp
      rw [← heq.2, List.length_cons, List.length_cons]
      lia
  | case5 tokens h1 h2 h3 h4 =>
      intro rest' values h
      rw [parseValues] at h
      · cases h
      all_goals assumption

theorem length_parseExactValue (tokens : List Token) :
    (parseExactValue tokens).2.length <= tokens.length := by
  unfold parseExactValue
  split
  · rw [List.length_cons]
    exact Nat.le_succ _
  · exact Nat.le_refl _

theorem length_parseRestriction {tokens rest : List Token}
    (h : parseRestriction key tokens = some (requirement, rest)) :
    rest.length <= tokens.length := by
  unfold parseRestriction at h
  split at h
  · rename_i later
    have hshorter := length_parseExactValue later
    rw [Option.some.injEq, Prod.mk.injEq] at h
    rw [← h.2, List.length_cons]
    lia
  · rename_i later
    have hshorter := length_parseExactValue later
    rw [Option.some.injEq, Prod.mk.injEq] at h
    rw [← h.2, List.length_cons]
    lia
  · rename_i operator later
    have hset (f : List String -> SelectorRequirement)
        (hf : (parseValues later).map (fun p => (f p.1, p.2)) = some (requirement, rest)) :
        rest.length <= (Token.word operator :: Token.openParen :: later).length := by
      rcases Option.map_eq_some_iff.mp hf with ⟨p, hp, heq⟩
      rw [Prod.mk.injEq] at heq
      have hshorter := length_parseValues hp
      rw [← heq.2, List.length_cons, List.length_cons]
      lia
    split at h
    · exact hset (fun values => ⟨key, .isIn values⟩) h
    · split at h
      · exact hset (fun values => ⟨key, .notIn values⟩) h
      · cases h
  · rw [Option.some.injEq, Prod.mk.injEq] at h
    rw [← h.2]

theorem length_parseRequirement {tokens rest : List Token}
    (h : SelectorGrammar.parseRequirement tokens = some (requirement, rest)) :
    rest.length < tokens.length := by
  unfold SelectorGrammar.parseRequirement at h
  split at h
  · rw [Option.some.injEq, Prod.mk.injEq] at h
    rw [← h.2, List.length_cons, List.length_cons]
    lia
  · have hshorter := length_parseRestriction h
    rw [List.length_cons]
    lia
  · cases h

/-- The texts of requirements, joined by commas, read back as the requirements. -/
theorem parseRequirements_lex {texts : List String} {requirements : List SelectorRequirement}
    (h : List.Forall₂ Written texts requirements) (hne : texts ≠ []) :
    forall fuel, (lex [] (String.intercalate "," texts).toList).length <= fuel ->
      parseRequirements fuel (lex [] (String.intercalate "," texts).toList) =
        some requirements := by
  induction h with
  | nil => exact absurd rfl hne
  | @cons text requirement texts requirements hwritten hrest ih =>
      intro fuel hfuel
      cases texts with
      | nil =>
          cases hrest
          have hparsed := hwritten.parseRequirement (Or.inl rfl)
          rw [List.append_nil] at hparsed
          have hlength := length_parseRequirement hparsed
          rw [String.intercalate_singleton] at hfuel ⊢
          cases fuel with
          | zero => lia
          | succ fuel =>
              rw [parseRequirements, hparsed]
              rfl
      | cons text' texts =>
          have htext : (String.intercalate "," (text :: text' :: texts)).toList =
              text.toList ++ ',' :: (String.intercalate "," (text' :: texts)).toList := by
            rw [String.intercalate_cons_cons, String.toList_append, String.toList_append]
            simp
          have hclosed : Closed (',' :: (String.intercalate "," (text' :: texts)).toList) :=
            Or.inr ⟨_, rfl⟩
          have hparsed := hwritten.parseRequirement hclosed
          rw [← htext, lex_comma] at hparsed
          have hlength := length_parseRequirement hparsed
          cases fuel with
          | zero => lia
          | succ fuel =>
              have hlater := ih (List.cons_ne_nil _ _) fuel (by
                rw [flush, List.isEmpty_nil, if_pos rfl, List.length_cons] at hlength
                lia)
              rw [parseRequirements, hparsed]
              simp only [flush, List.isEmpty_nil, if_true, hlater, Option.map_some]

theorem parseSelector_intercalate {texts : List String}
    {requirements : List SelectorRequirement} (h : List.Forall₂ Written texts requirements)
    (hne : texts ≠ []) :
    parseSelector (String.intercalate "," texts) = some requirements := by
  have hparsed := parseRequirements_lex h hne _ (Nat.le_refl _)
  unfold parseSelector
  cases htokens : lex [] (String.intercalate "," texts).toList with
  | nil =>
      rw [htokens] at hparsed
      cases hparsed
  | cons token tokens =>
      rw [htokens] at hparsed
      exact hparsed

end RoundTrip

end SelectorGrammar
end OpenStudioOperator
