import FoldMark.Markdown.Block.Start
import FoldMark.Markdown.Block.Table

/-!
# What interrupts a block

A block that goes on from line to line ends before a line that starts a block of certain other
kinds.
-/

namespace FoldMark.Markdown.Scope

/-- Whether a line starts a block that ends a list: a fence, a quotation or a thematic break. -/
def interruptsList (scope : Scope) (n : Nat) : Bool :=
  (scope.fence? n).isSome || scope.startsQuotation n || scope.isRule n

/-- Whether a line starts a block that ends a quotation or a table. -/
def interruptsQuotation (scope : Scope) (n : Nat) : Bool :=
  scope.interruptsList n || (scope.list? n).isSome || (scope.html? n).any (·.interrupts) ||
    (scope.heading? n).isSome

/-- Whether a line starts a block that ends a paragraph or a definition, apart from a list. -/
def interruptsText (scope : Scope) (n stop : Nat) : Bool :=
  (scope.table? n stop).isSome || scope.interruptsList n || (scope.footnote? n).isSome ||
    (scope.html? n).any (·.interrupts) || (scope.heading? n).isSome

/-- Whether a line starts a block that ends a paragraph. -/
def interruptsParagraph (scope : Scope) (n stop : Nat) : Bool :=
  scope.interruptsText n stop || scope.listInterrupts n

/-- Whether a line starts a block that ends a definition. -/
def interruptsDefinition (scope : Scope) (n stop : Nat) : Bool :=
  scope.interruptsText n stop || (scope.list? n).isSome

end FoldMark.Markdown.Scope
