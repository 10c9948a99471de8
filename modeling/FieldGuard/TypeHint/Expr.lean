import FieldGuard.TypeHint.Token

namespace FieldGuard.TypeHint

inductive Unary where
  | plus
  | minus
  | invert
  | negation
  deriving DecidableEq, Repr

inductive Binary where
  | alternative
  | exclusive
  | both
  | shiftLeft
  | shiftRight
  | add
  | subtract
  | multiply
  | matrix
  | divide
  | floorDivide
  | remainder
  | power
  deriving DecidableEq, Repr

inductive Comparison where
  | equal
  | unequal
  | less
  | atMost
  | greater
  | atLeast
  | identical
  | distinct
  | within
  | outside
  deriving DecidableEq, Repr

inductive ParameterForm where
  | positional
  | ordinary
  | rest
  | named
  | others
  deriving DecidableEq, Repr

inductive ArgumentForm where
  | positional
  | expanded
  | named (name : String)
  | expandedEntries
  deriving DecidableEq, Repr

inductive ComprehensionForm where
  | list
  | set
  | dict
  | generator
  deriving DecidableEq, Repr

/-- A clause of a comprehension is its mark of concurrency, its target, its source and its
conditions. The value of a comprehension counts for dicts only. A part of a formatted text has a
conversion and a format of its own. -/
inductive Expr where
  | name (text : String)
  | none
  | bool (b : Bool)
  | ellipsis
  | number (n : Number)
  | text (content : String)
  | bytes (content : List UInt8)
  | formatted (parts : List Expr)
  | part (value : Expr) (conversion : Option Char) (format : List Expr)
  | attribute (owner : Expr) (name : String)
  | subscript (head argument : Expr)
  | slice (start stop step : Option Expr)
  | call (head : Expr) (arguments : List (ArgumentForm × Expr))
  | unary (operator : Unary) (operand : Expr)
  | binary (operator : Binary) (left right : Expr)
  | every (operands : List Expr)
  | some (operands : List Expr)
  | compare (first : Expr) (others : List (Comparison × Expr))
  | conditional (test yes no : Expr)
  | function (parameters : List (ParameterForm × String × Option Expr)) (body : Expr)
  | bind (name : String) (value : Expr)
  | tuple (items : List Expr)
  | list (items : List Expr)
  | set (items : List Expr)
  | dict (entries : List (Option Expr × Expr))
  | expanded (operand : Expr)
  | comprehension (form : ComprehensionForm) (element value : Expr)
      (clauses : List (Bool × Expr × Expr × List Expr))
  | wait (operand : Expr)
  | produce (operand : Option Expr)

namespace Expr

def isExpanded : Expr → Bool
  | .expanded _ => true
  | _ => false

end Expr

end FieldGuard.TypeHint
