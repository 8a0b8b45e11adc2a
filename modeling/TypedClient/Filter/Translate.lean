import TypedClient.Filter.Escape
import TypedClient.Filter.Outcome
import TypedClient.Text.Blank

/-!
# Translating bytes

The tool `tr`: it replaces the bytes of one set by those of another, deletes the bytes of a set, or
writes one byte for a run of equal ones.  A set is spelled by its bytes, by ranges, and by the names
of classes.
-/

namespace TypedClient.Filter

/-- A byte of the spelling of a set, and whether it was spelled by an escape, so that it has no
further meaning. -/
structure SetUnit where
  byte : UInt8
  escaped : Bool
deriving DecidableEq

/-- The spelling of a set with its escapes read; a backslash before anything else is left out. -/
def setUnits (text : List Char) : List SetUnit :=
  match text with
  | [] => []
  | '\\' :: rest =>
    match h : escape? rest with
    | some (b, after) =>
      have : after.length < rest.length := length_of_escape? h
      ⟨b, true⟩ :: setUnits after
    | none =>
      match rest with
      | [] => [⟨92, false⟩]
      | c :: after => (Text.Utf8.encode [c]).map (⟨·, true⟩) ++ setUnits after
  | c :: rest => (Text.Utf8.encode [c]).map (⟨·, false⟩) ++ setUnits rest
termination_by text.length

/-- The bytes from one to another, in order. -/
def byteRange (first last : UInt8) : List UInt8 :=
  ((List.range 256).filter fun n => first.toNat ≤ n ∧ n ≤ last.toNat).map UInt8.ofNat

/-- The bytes of a named class, in order. -/
def byteClass? (name : String) : Option (List UInt8) :=
  let test? : Option (Char → Bool) :=
    match name with
    | "alnum" => some Char.isAlphanum
    | "alpha" => some Char.isAlpha
    | "blank" => some fun c => c == ' ' || c == '\t'
    | "cntrl" => some fun c => c.toNat < 32 || c.toNat == 127
    | "digit" => some Char.isDigit
    | "graph" => some fun c => 32 < c.toNat && c.toNat < 127
    | "lower" => some Char.isLower
    | "print" => some fun c => 32 ≤ c.toNat && c.toNat < 127
    | "punct" => some fun c => 32 < c.toNat && c.toNat < 127 && !c.isAlphanum
    | "space" => some fun c => c == ' ' || (9 ≤ c.toNat && c.toNat ≤ 13)
    | "upper" => some Char.isUpper
    | "xdigit" => some fun c => c.isDigit || ('a' ≤ c && c ≤ 'f') || ('A' ≤ c && c ≤ 'F')
    | _ => none
  test?.map fun test =>
    ((List.range 128).filter fun n => test (Char.ofNat n)).map UInt8.ofNat

/-- What is wrong with the arguments. -/
inductive TrFlaw where
  | noOperand
  | missingOperand (last : String) (reason : String)
  | extraOperand (operand : String) (reason : Option String)
  | reversedRange (first last : UInt8)
  | unknownClass (name : String)
  | emptyReplacement
  | unknownOption (letter : Char)

/-- The lines that report what is wrong with the arguments. -/
def TrFlaw.lines : TrFlaw → List String
  | .noOperand => ["tr: missing operand", advice]
  | .missingOperand last reason => ["tr: missing operand after '" ++ last ++ "'", reason, advice]
  | .extraOperand operand reason =>
    ["tr: extra operand '" ++ operand ++ "'"] ++ reason.toList ++ [advice]
  | .reversedRange first last =>
    ["tr: range-endpoints of '" ++ (Char.ofNat first.toNat).toString ++ "-" ++
      (Char.ofNat last.toNat).toString ++ "' are in reverse collating sequence order"]
  | .unknownClass name => ["tr: invalid character class '" ++ name ++ "'"]
  | .emptyReplacement => ["tr: when not truncating set1, string2 must be non-empty"]
  | .unknownOption letter => ["tr: invalid option -- '" ++ letter.toString ++ "'", advice]
where
  /-- Where the use of the tool is explained. -/
  advice : String := "Try 'tr --help' for more information."

/-- Whether a unit is a character with its own meaning. -/
def SetUnit.is (u : SetUnit) (c : Char) : Bool := u == ⟨UInt8.ofNat c.toNat, false⟩

/-- The name of a class that stands in brackets and colons, and what follows it. -/
def classAt? (units : List SetUnit) : Option (String × List SetUnit) :=
  match units with
  | first :: second :: rest =>
    let name := rest.takeWhile fun u => !u.is ':'
    match rest.drop name.length with
    | colon :: bracket :: after =>
      if first.is '[' && second.is ':' && colon.is ':' && bracket.is ']' then
        some (String.ofList (name.map fun u => Char.ofNat u.byte.toNat), after)
      else none
    | _ => none
  | _ => none

/-- The name of a class takes characters. -/
theorem length_of_classAt? {units after : List SetUnit} {name : String}
    (h : classAt? units = some (name, after)) : after.length < units.length := by
  unfold classAt? at h
  split at h
  · next rest =>
    dsimp only at h
    split at h
    · next heq =>
      split at h
      · cases h
        have := congrArg List.length heq
        simp only [List.length_drop, List.length_cons] at this ⊢
        omega
      · cases h
    · cases h
  · cases h

/-- The bytes of a set, in the order in which they are spelled. -/
def setBytes (units : List SetUnit) : Except TrFlaw (List UInt8) :=
  match h : classAt? units with
  | some (name, after) =>
    have : after.length < units.length := length_of_classAt? h
    match byteClass? name with
    | none => .error (.unknownClass name)
    | some bytes => (setBytes after).map (bytes ++ ·)
  | none =>
    match units with
    | first :: hyphen :: last :: rest =>
      if hyphen.is '-' then
        if last.byte < first.byte then .error (.reversedRange first.byte last.byte)
        else (setBytes rest).map (byteRange first.byte last.byte ++ ·)
      else (setBytes (hyphen :: last :: rest)).map (first.byte :: ·)
    | first :: rest => (setBytes rest).map (first.byte :: ·)
    | [] => .ok []
termination_by units.length

/-- What the options ask for. -/
structure TrMode where
  complement : Bool := false
  delete : Bool := false
  squeeze : Bool := false
  truncate : Bool := false

/-- Reads the letters of an option. -/
def TrMode.addLetters (mode : TrMode) : List Char → Except TrFlaw TrMode
  | [] => .ok mode
  | c :: rest =>
    match c with
    | 'c' | 'C' => TrMode.addLetters { mode with complement := true } rest
    | 'd' => TrMode.addLetters { mode with delete := true } rest
    | 's' => TrMode.addLetters { mode with squeeze := true } rest
    | 't' => TrMode.addLetters { mode with truncate := true } rest
    | c => .error (.unknownOption c)

/-- The letter of an option that is spelled out. -/
def trLetter? (name : List Char) : Option Char :=
  match String.ofList name with
  | "complement" => some 'c'
  | "delete" => some 'd'
  | "squeeze-repeats" => some 's'
  | "truncate-set1" => some 't'
  | _ => none

/-- Reads the options before the operands. -/
def TrMode.read (mode : TrMode) : List (List Char) → Except TrFlaw (TrMode × List (List Char))
  | [] => .ok (mode, [])
  | ['-', '-'] :: operands => .ok (mode, operands)
  | ('-' :: '-' :: name) :: rest =>
    match trLetter? name with
    | some c => (mode.addLetters [c]).bind fun mode => TrMode.read mode rest
    | none => .error (.unknownOption '-')
  | ('-' :: c :: letters) :: rest =>
    (mode.addLetters (c :: letters)).bind fun mode => TrMode.read mode rest
  | operands => .ok (mode, operands)

/-- The operands that a mode needs: one set or two. -/
def TrMode.operands (mode : TrMode) : List (List Char) →
    Except TrFlaw (List Char × Option (List Char))
  | [] => .error .noOperand
  | [one] =>
    if mode.delete && mode.squeeze then
      .error (.missingOperand (String.ofList one)
        "Two strings must be given when both deleting and squeezing repeats.")
    else if mode.delete || mode.squeeze then .ok (one, none)
    else .error (.missingOperand (String.ofList one)
      "Two strings must be given when translating.")
  | [one, two] =>
    if mode.delete && !mode.squeeze then
      .error (.extraOperand (String.ofList two)
        (some "Only one string may be given when deleting without squeezing repeats."))
    else .ok (one, some two)
  | _ :: _ :: three :: _ => .error (.extraOperand (String.ofList three) none)

/-- The byte that a byte is replaced by: the one at the same place of the other set, whose last byte
serves for all places behind it. -/
def replacement (pairs : List (UInt8 × UInt8)) (b : UInt8) : UInt8 :=
  ((pairs.reverse.find? fun pair => pair.1 == b).map Prod.snd).getD b

/-- Writes one byte for a run of equal ones of a set; `before` is the byte that was written last. -/
def squeezeRuns (set : List UInt8) (before : Option UInt8) : List UInt8 → List UInt8
  | [] => []
  | b :: rest =>
    if before = some b ∧ set.contains b then squeezeRuns set before rest
    else b :: squeezeRuns set (some b) rest

/-- The function on byte sequences that a mode and its sets describe. -/
def TrMode.transform (mode : TrMode) (first : List UInt8) (second : Option (List UInt8)) :
    Except TrFlaw (List UInt8 → List UInt8) :=
  let set := if mode.complement
    then ((List.range 256).map UInt8.ofNat).filter (!first.contains ·) else first
  match mode.delete, second with
  | true, none => .ok fun input => input.filter (!set.contains ·)
  | true, some two => .ok fun input => squeezeRuns two none (input.filter (!set.contains ·))
  | false, none => .ok (squeezeRuns set none)
  | false, some two =>
    let set := if mode.truncate then set.take two.length else set
    match two.getLast? with
    | none => if set.isEmpty then .ok id else .error .emptyReplacement
    | some last =>
      let pairs := set.zip (two ++ List.replicate set.length last)
      let table := ((List.range 256).map fun n => replacement pairs (UInt8.ofNat n)).toArray
      let translate (input : List UInt8) := input.map fun b => table.getD b.toNat b
      .ok fun input => if mode.squeeze then squeezeRuns two none (translate input)
        else translate input

/-- The function on byte sequences that the arguments describe. -/
def trFunction (arguments : List (List Char)) : Except TrFlaw (List UInt8 → List UInt8) := do
  let (mode, operands) ← TrMode.read {} arguments
  let (one, two) ← mode.operands operands
  let first ← setBytes (setUnits one)
  match two with
  | none => mode.transform first none
  | some two => mode.transform first (some (← setBytes (setUnits two)))

/-- Replaces, deletes and squeezes the bytes of its input. -/
def tr : Tool := fun arguments input =>
  match trFunction arguments with
  | .ok f => { output := f input }
  | .error flaw => .complaint flaw.lines 1 input

end TypedClient.Filter
