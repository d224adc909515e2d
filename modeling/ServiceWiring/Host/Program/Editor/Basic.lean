import ServiceWiring.Host.Pattern.Reader

/-!
# Scripts of the line editor

A script of the line editor is a list of commands, each for the lines that its addresses choose. A
block is a command too: it tells where the block ends, so that it can be passed over.
-/

namespace ServiceWiring.Editor

/-- Lines that a command is for. -/
inductive Address where
  /-- The line of a number. -/
  | line (n : Nat)
  /-- The last line. -/
  | last
  /-- A line, and every so many lines after it. -/
  | step (first gap : Nat)
  /-- The lines that a pattern matches; without one, the pattern used last. -/
  | pattern (p? : Option Pattern)
deriving DecidableEq, Repr

/-- Where a range of lines ends. -/
inductive Until where
  /-- At a line of an address. -/
  | address (a : Address)
  /-- So many lines after its start. -/
  | after (n : Nat)
  /-- At the next line whose number is a multiple. -/
  | multiple (n : Nat)
deriving DecidableEq, Repr

/-- The lines that a command is for: all, those of an address, or those of a range. -/
structure Lines where
  /-- The address, or the start of the range. -/
  start? : Option Address := none
  /-- The end of the range. -/
  stop? : Option Until := none
  /-- Whether all other lines are meant. -/
  negated : Bool := false
deriving DecidableEq, Repr

/-- A part of what comes in for a match. -/
inductive Part where
  /-- A text. -/
  | text (t : Text)
  /-- What a group matched; zero stands for all of it. -/
  | group (n : Nat)
  /-- What follows is written in small letters, in capitals, or as it is. -/
  | letters (capitals? : Option Bool)
  /-- The next letter is small or a capital. -/
  | letter (capital : Bool)
deriving DecidableEq, Repr

/-- A replacement. -/
structure Substitution where
  /-- What is replaced; without a pattern, that of the pattern used last. -/
  pattern? : Option Pattern
  /-- What comes in. -/
  parts : List Part
  /-- Whether later matches are replaced as well. -/
  everywhere : Bool := false
  /-- The number of the first match that is replaced. -/
  first : Nat := 1
  /-- Whether a line in which something was replaced is written. -/
  prints : Bool := false
  /-- A file to which such a line is written. -/
  file? : Option Text := none
deriving DecidableEq, Repr

/-- What a command does. -/
inductive Action where
  /-- Opens a block; what is at the index comes after it. -/
  | opening (after : Nat)
  /-- Closes a block. -/
  | closing
  /-- Is a place to go to. -/
  | label (name : Text)
  /-- Goes to a place, or to the end. -/
  | branch (name : Text)
  /-- Goes to a place if something was replaced, or with `unless` if nothing was. -/
  | branchIf (replaced : Bool) (name : Text)
  /-- Replaces. -/
  | substitute (s : Substitution)
  /-- Replaces characters. -/
  | translate (pairs : List (CodePoint × CodePoint))
  /-- Drops the text. -/
  | delete
  /-- Drops the first line of the text and starts again. -/
  | deleteLine
  /-- Writes the text. -/
  | print
  /-- Writes the first line of the text. -/
  | printLine
  /-- Writes the text with what cannot be seen spelled out. -/
  | list
  /-- Writes the text and reads the next line in its place. -/
  | next
  /-- Reads the next line after the text. -/
  | appendNext
  /-- Ends, with or without writing the text. -/
  | quit (silent : Bool) (status : Nat)
  /-- Writes the number of the line. -/
  | number
  /-- Puts the text aside, in the place of what was there or after it. -/
  | hold (after : Bool)
  /-- Takes what was put aside, in the place of the text or after it. -/
  | get (after : Bool)
  /-- Exchanges the text and what was put aside. -/
  | exchange
  /-- Makes the text empty. -/
  | clear
  /-- Writes a text after this line. -/
  | append (t : Text)
  /-- Writes a text before this line. -/
  | insert (t : Text)
  /-- Writes a text in the place of the line. -/
  | change (t : Text)
  /-- Writes what a file holds after this line. -/
  | read (file : Text)
  /-- Writes the text to a file. -/
  | write (file : Text)
deriving DecidableEq, Repr

/-- A command. -/
structure Command where
  /-- The lines that it is for. -/
  lines : Lines
  /-- What it does. -/
  action : Action
deriving DecidableEq, Repr

/-- Why a script cannot be read. -/
inductive Mistake where
  /-- A regular expression has a flaw. -/
  | flawed (f : Regex.Flaw)
  /-- A letter is no command. -/
  | unknown (c : CodePoint)
  /-- There is no command after an address. -/
  | missing
  /-- A replacement is not closed. -/
  | openReplacement
  /-- A transliteration is not closed. -/
  | openTransliteration
  /-- A regular expression of an address is not closed. -/
  | openAddress
  /-- A letter after a replacement has no meaning. -/
  | unknownOption
  /-- Something follows a command. -/
  | extra
  /-- A block is not closed. -/
  | openBlock
  /-- A block is closed that was not opened. -/
  | closedBlock
  /-- The two sides of a transliteration differ in length. -/
  | uneven
  /-- A group that a replacement refers to does not exist. -/
  | noGroup (n : Nat)
  /-- A comma has no address after it. -/
  | unexpectedComma
  /-- A command takes no address. -/
  | noAddress (c : CodePoint)
  /-- A command takes one address only. -/
  | oneAddress
  /-- A command has no text. -/
  | noText
  /-- A label has no name. -/
  | noLabel
  /-- A place to go to does not exist. -/
  | unknownLabel (name : Text)
  /-- The first match is number zero. -/
  | zero
  /-- A file has no name. -/
  | noFile
deriving DecidableEq, Repr

/-- The wording of a mistake. -/
def Mistake.message : Mistake → Text
  | .flawed f => f.message
  | .unknown c => "unknown command: `" ++ [c] ++ "'"
  | .missing => "missing command"
  | .openReplacement => "unterminated `s' command"
  | .openTransliteration => "unterminated `y' command"
  | .openAddress => "unterminated address regex"
  | .unknownOption => "unknown option to `s'"
  | .extra => "extra characters after command"
  | .openBlock => "unmatched `\x7b'"
  | .closedBlock => "unexpected `\x7d'"
  | .uneven => "strings for `y' command are different lengths"
  | .noGroup n => "invalid reference \\" ++ Text.ofNat n ++ " on `s' command's RHS"
  | .unexpectedComma => "unexpected `,'"
  | .noAddress c => if c = 0x3A then ": doesn't want any addresses" else "unexpected `\x7d'"
  | .oneAddress => "command only uses one address"
  | .noText => "expected \\ after `a', `c' or `i'"
  | .noLabel => "\":\" lacks a label"
  | .unknownLabel name => "can't find label for jump to `" ++ name ++ "'"
  | .zero => "number option to `s' command may not be zero"
  | .noFile => "missing filename in r/R/w/W commands"

end ServiceWiring.Editor
