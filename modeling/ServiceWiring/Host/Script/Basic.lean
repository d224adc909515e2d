import ServiceWiring.Text.Basic

/-!
# Scripts

What a script of the shell is made of: commands, their words, and the parts of a word. Words keep
apart what was quoted, since only the rest is split into fields and taken for patterns.
-/

namespace ServiceWiring.Script

/-- What the value of a parameter is changed to. -/
inductive Change where
  /-- The value itself. -/
  | keep
  /-- How long the value is. -/
  | length
  /-- A word in the place of a value that is not set, or with `orEmpty` is empty. -/
  | default (orEmpty : Bool)
  /-- The same, and the word becomes the value. -/
  | assign (orEmpty : Bool)
  /-- The value, without which the shell ends with a message. -/
  | require (orEmpty : Bool)
  /-- A word in the place of a value that is set. -/
  | instead (orEmpty : Bool)
  /-- The value without what a pattern matches at its start. -/
  | dropStart (longest : Bool)
  /-- The value without what a pattern matches at its end. -/
  | dropEnd (longest : Bool)
deriving DecidableEq, Repr

/-- Where a redirection leads. -/
inductive Direction where
  /-- From a file. -/
  | input
  /-- To a file. -/
  | output
  /-- To the end of a file. -/
  | append
  /-- From and to a file. -/
  | both
  /-- From or to where another stream leads. -/
  | copy
  /-- From the text itself. -/
  | text
deriving DecidableEq, Repr

mutual

/-- A part of a word. -/
inductive Part where
  /-- Text outside quotes. -/
  | plain (t : Text)
  /-- Text that stands for itself. -/
  | quoted (t : Text)
  /-- The value of a parameter. -/
  | parameter (name : Text) (change : Change) (word : List Part) (isQuoted : Bool)
  /-- What a command writes. -/
  | output (c : Command) (isQuoted : Bool)
  /-- The value of an arithmetic expression. -/
  | number (expression : List Part) (isQuoted : Bool)
  /-- An expansion that is none, as it is spelled. -/
  | malformed (t : Text)

/-- A redirection of a stream. -/
inductive Redirect where
  /-- Leads a stream somewhere. -/
  | lead (stream : Nat) (direction : Direction) (target : List Part)

/-- A command. -/
inductive Command where
  /-- Assignments and the words of a call. -/
  | call (line : Nat) (assignments : List (Text × List Part)) (words : List (List Part))
    (redirects : List Redirect)
  /-- Commands of which each reads what the one before it writes. -/
  | pipe (commands : List Command)
  /-- A command whose success is taken for failure, and the other way round. -/
  | negate (c : Command)
  /-- Two commands, the second only after success of the first. -/
  | andThen (c d : Command)
  /-- Two commands, the second only after failure of the first. -/
  | orElse (c d : Command)
  /-- Two commands, one after the other. -/
  | sequence (c d : Command)
  /-- A command that is not waited for. -/
  | background (c : Command)
  /-- A command in a shell of its own. -/
  | subshell (c : Command)
  /-- A command with redirections. -/
  | redirected (line : Nat) (c : Command) (redirects : List Redirect)
  /-- One of two commands, by the success of another one. -/
  | choice (test yes : Command) (no? : Option Command)
  /-- A command that is repeated as long as another one succeeds, or until it does. -/
  | loop (untilSuccess : Bool) (test body : Command)
  /-- A command that is repeated for each of some words, or of the arguments. -/
  | each (line : Nat) (name : Text) (words? : Option (List (List Part))) (body : Command)
  /-- The first command one of whose patterns a word matches. -/
  | select (line : Nat) (word : List Part) (cases : List (List (List Part) × Command))
  /-- Gives a command a name. -/
  | define (name : Text) (body : Command)
  /-- Does nothing. -/
  | nothing

end

/-- A word: its parts. -/
abbrev Word := List Part


end ServiceWiring.Script
