import Rollout.Cli.Misuse
import Rollout.Cli.Task

/-!
# Options

An option is a word that begins with a dash.  A long one begins with two dashes and may
carry its value behind an equals sign; short ones have one letter, several of them may
share a word, and the value of the last one may follow it in the same word.  Otherwise the
value of an option is the next word, whatever it looks like.
-/

namespace Rollout.Cli

/-- What an option amounts to: by itself, or together with a value. -/
inductive Arity (α : Type) where
  /-- It takes no value. -/
  | alone (given : α)
  /-- It takes a value. -/
  | withValue (given : String → α)

/-- The options that are understood, by their spellings. -/
abbrev Options (α : Type) := List (String × Arity α)

/-- What a word gives: options, and perhaps one that waits for the next word. -/
structure Given (α : Type) where
  /-- The options that are complete. -/
  complete : List α
  /-- The option that waits for its value, with its spelling. -/
  waiting : Option (String × (String → α))

variable {α : Type}

/-- Whether a word gives options. -/
def isOption (word : String) : Bool :=
  match word.toList with
  | '-' :: _ :: _ => true
  | _ => false

/-- What a word gives after another option. -/
def Given.after (first : α) (g : Given α) : Given α :=
  { g with complete := first :: g.complete }

/-- What short options give, by their letters. -/
def readShort (options : Options α) : (letters : List Char) → Except Misuse (Given α)
  | [] => .ok ⟨[], none⟩
  | letter :: rest =>
    let name := String.ofList ['-', letter]
    match options.lookup name with
    | none => .error (.unknownOption name)
    | some (.alone given) => (readShort options rest).map (Given.after given)
    | some (.withValue given) =>
      if rest.isEmpty then .ok ⟨[], some (name, given)⟩
      else .ok ⟨[given (String.ofList rest)], none⟩

/-- What a long option gives, with the value that it carries. -/
def readLong (options : Options α) (name : String) (value : Option String) :
    Except Misuse (Given α) :=
  match options.lookup name, value with
  | none, _ => .error (.unknownOption name)
  | some (.alone given), none => .ok ⟨[given], none⟩
  | some (.alone _), some _ => .error (.unexpectedValue name)
  | some (.withValue given), some value => .ok ⟨[given value], none⟩
  | some (.withValue given), none => .ok ⟨[], some (name, given)⟩

/-- What a word gives that begins with a dash. -/
def readWord (options : Options α) (word : String) : Except Misuse (Given α) :=
  match word.toList with
  | '-' :: '-' :: rest =>
    let (name, value) := cutAtEquals ('-' :: '-' :: rest)
    readLong options name value
  | letters => readShort options (letters.drop 1)

/-- The options that words give, in their order, and the other words.  Two dashes end the
options; unless they are mixed with other words, so does the first other word. -/
def scan (options : Options α) (mixed : Bool) :
    (words : List String) → Except Misuse (List α × List String)
  | [] => .ok ([], [])
  | word :: rest =>
    if word = "--" then .ok ([], rest)
    else if isOption word then
      match readWord options word with
      | .error m => .error m
      | .ok ⟨complete, none⟩ =>
        (scan options mixed rest).map (fun (more, others) => (complete ++ more, others))
      | .ok ⟨complete, some (name, given)⟩ =>
        match rest with
        | [] => .error (.missingValue name)
        | value :: rest =>
          (scan options mixed rest).map
            (fun (more, others) => (complete ++ given value :: more, others))
    else if mixed then
      (scan options mixed rest).map (fun (given, others) => (given, word :: others))
    else .ok ([], word :: rest)

end Rollout.Cli
