import ServiceWiring.Host.Binary64.Arithmetic
import ServiceWiring.Host.Pattern.Basic

/-!
# Programs of rules

A program of rules goes through the records of its input. A rule tells for which records it holds,
and what is done for them. Records have fields, which expressions refer to by number.

Texts are runs of octets here: each of their code points is one octet.
-/

namespace ServiceWiring.Rules

/-- What is calculated from two numbers. -/
inductive Operation where
  /-- The sum. -/
  | add
  /-- The difference. -/
  | subtract
  /-- The product. -/
  | multiply
  /-- The quotient. -/
  | divide
  /-- The remainder. -/
  | remainder
  /-- The power. -/
  | power
deriving DecidableEq, Repr

/-- How two values are compared. -/
inductive Comparison where
  /-- The first one is less. -/
  | less
  /-- The first one is not greater. -/
  | notGreater
  /-- They are equal. -/
  | equal
  /-- They are not equal. -/
  | notEqual
  /-- The first one is not less. -/
  | notLess
  /-- The first one is greater. -/
  | greater
deriving DecidableEq, Repr

/-- Where a record is read from. -/
inductive Origin where
  /-- The input of the program. -/
  | input
  /-- A file. -/
  | file
  /-- What a command writes. -/
  | command
deriving DecidableEq, Repr

/-- The functions. -/
inductive Function where
  /-- How long a text is, or how many items there are. -/
  | length
  /-- A part of a text. -/
  | substr
  /-- Where a text stands in another one. -/
  | index
  /-- Cuts a text into items. -/
  | split
  /-- Replaces the first match. -/
  | sub
  /-- Replaces all matches. -/
  | gsub
  /-- Where a match starts. -/
  | match
  /-- A text in a format. -/
  | sprintf
  /-- The sine. -/
  | sin
  /-- The cosine. -/
  | cos
  /-- The angle of a point. -/
  | atan2
  /-- The exponential. -/
  | exp
  /-- The natural logarithm. -/
  | log
  /-- The square root. -/
  | sqrt
  /-- The part before the point. -/
  | int
  /-- A number between zero and one. -/
  | rand
  /-- Tells where such numbers start. -/
  | srand
  /-- A text in small letters. -/
  | tolower
  /-- A text in capitals. -/
  | toupper
  /-- Runs a command. -/
  | system
  /-- Closes a file or a command. -/
  | close
  /-- Writes what waits to be written. -/
  | fflush
deriving DecidableEq, Repr

/-- The functions by their names. -/
def Function.names : List (Text × Function) :=
  [("length", length), ("substr", substr), ("index", index), ("split", split), ("sub", sub),
    ("gsub", gsub), ("match", .match), ("sprintf", sprintf), ("sin", sin), ("cos", cos),
    ("atan2", atan2), ("exp", exp), ("log", log), ("sqrt", sqrt), ("int", int), ("rand", rand),
    ("srand", srand), ("tolower", tolower), ("toupper", toupper), ("system", system),
    ("close", close), ("fflush", fflush)]

/-- An expression. -/
inductive Expr where
  /-- A number. -/
  | number (x : Binary64)
  /-- A text. -/
  | text (t : Text)
  /-- Whether a pattern occurs in the record; or the pattern, where one is asked for. -/
  | pattern (p : Pattern)
  /-- A variable. -/
  | named (name : Text)
  /-- A field of the record; number zero is all of it. -/
  | field (index : Expr)
  /-- An item of an array. -/
  | item (array : Text) (index : Expr)
  /-- Several values in parentheses. -/
  | several (es : List Expr)
  /-- Gives something a value, which may be calculated from the one that it has. -/
  | assign (target : Expr) (op? : Option Operation) (value : Expr)
  /-- Adds one to something or takes one away, and gives the value after or before that. -/
  | step (target : Expr) (up after : Bool)
  /-- What is calculated from two numbers. -/
  | calculate (op : Operation) (a b : Expr)
  /-- How two values compare. -/
  | compare (c : Comparison) (a b : Expr)
  /-- One text after another. -/
  | join (a b : Expr)
  /-- Whether a value is false. -/
  | not (e : Expr)
  /-- Whether both of two values are true. -/
  | both (a b : Expr)
  /-- Whether one of two values is true. -/
  | either (a b : Expr)
  /-- Whether a pattern occurs in a text. -/
  | accepts (text pattern : Expr)
  /-- Whether an array has an item. -/
  | holds (index : Expr) (array : Text)
  /-- One of two values. -/
  | choose (test yes no : Expr)
  /-- Reads a record. -/
  | read (origin : Origin) (source target : Expr)
  /-- What a function gives. -/
  | call (f : Function) (args : List Expr)
  /-- What a routine of the program gives. -/
  | apply (routine : Text) (args : List Expr)
deriving Inhabited

/-- All of the record. -/
def Expr.record : Expr := field (number (Binary64.ofInt 0))

/-- Whether an expression stands for something that can be given a value. -/
def Expr.isTarget : Expr → Bool
  | named _ | field _ | item .. => true
  | _ => false

/-- Where values are written to. -/
inductive Sink where
  /-- To the output. -/
  | output
  /-- To a file, in the place of what it held. -/
  | file
  /-- To the end of a file. -/
  | fileEnd
  /-- To a command. -/
  | command
deriving DecidableEq, Repr

/-- What is done. -/
inductive Action where
  /-- Nothing. -/
  | nothing
  /-- An expression is evaluated. -/
  | evaluate (e : Expr)
  /-- Values are written, one after another or in a format. -/
  | write (formatted : Bool) (es : List Expr) (sink : Sink) (place : Expr)
  /-- One action after another. -/
  | sequence (a b : Action)
  /-- One of two actions. -/
  | choose (test : Expr) (yes no : Action)
  /-- An action as long as a test holds, and another one after each turn. -/
  | loop (test : Expr) (body after : Action)
  /-- An action once and then as long as a test holds. -/
  | again (body : Action) (test : Expr)
  /-- An action for the index of each item of an array. -/
  | each (name array : Text) (body : Action)
  /-- Leaves a loop. -/
  | stop
  /-- Goes to the next turn of a loop. -/
  | skip
  /-- Goes to the next record. -/
  | next
  /-- Goes to the end of the input. -/
  | leave (status? : Option Expr)
  /-- Goes back from a routine. -/
  | back (value? : Option Expr)
  /-- Removes an item of an array, or all of them. -/
  | delete (array : Text) (index? : Option Expr)
deriving Inhabited

/-- When a rule holds. -/
inductive Occasion where
  /-- Before the first record. -/
  | start
  /-- After the last record. -/
  | stop
  /-- For every record. -/
  | always
  /-- For the records of which an expression is true. -/
  | whenever (e : Expr)
  /-- From each record of which an expression is true to the next one of which another is. -/
  | between (a b : Expr)
deriving Inhabited

/-- A rule. -/
structure Rule where
  /-- When it holds. -/
  occasion : Occasion
  /-- What is done then. -/
  action : Action
deriving Inhabited

/-- An action that expressions can refer to. -/
structure Routine where
  /-- Its name. -/
  name : Text
  /-- What it calls the values that it is given. -/
  parameters : List Text
  /-- What is done. -/
  body : Action
deriving Inhabited

/-- A program. -/
structure Book where
  /-- The rules. -/
  rules : List Rule := []
  /-- The routines. -/
  routines : List Routine := []
deriving Inhabited

end ServiceWiring.Rules
