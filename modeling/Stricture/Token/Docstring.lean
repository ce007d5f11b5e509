import Stricture.Token.Basic

/-!
# Documentation strings

Which string tokens document a module, a class or a function: those that come first, or first after
the colon that ends a heading. Colons inside of brackets do not end a heading.
-/

namespace Stricture.Docstring

/-- What the reader of the tokens waits for. -/
inductive Awaiting where
  | docstring
  | colon
  | nothing
  deriving DecidableEq

/-- How far the reader has come: what it waits for, how many brackets are open since the last
heading began, and the documentation strings found so far, the last one first. -/
structure Progress where
  awaiting : Awaiting
  depth : Int
  found : List Token

/-- At the start a documentation string may come. -/
def start : Progress :=
  ⟨.docstring, 0, []⟩

/-- A token after which no documentation string can come. -/
def Progress.interrupt (p : Progress) : Progress :=
  if p.awaiting = .docstring then { p with awaiting := .nothing } else p

/-- Reads one token. -/
def step (p : Progress) (t : Token) : Progress :=
  match t.kind with
  | .lineEnd | .indent | .dedent | .blankEnd | .comment => p
  | .string =>
    if p.awaiting = .docstring then { p with awaiting := .nothing, found := t :: p.found } else p
  | .name =>
    if t.text = "class" ∨ t.text = "def" then { p with awaiting := .colon, depth := 0 }
    else p.interrupt
  | .op =>
    if t.text = ":" then
      if p.depth = 0 ∧ p.awaiting = .colon then { p with awaiting := .docstring } else p
    else if ["(", "[", "\x7b"].contains t.text then { p.interrupt with depth := p.depth + 1 }
    else if [")", "]", "\x7d"].contains t.text then { p.interrupt with depth := p.depth - 1 }
    else p.interrupt
  | _ => p.interrupt

/-- The documentation strings among the tokens. -/
def all (tokens : List Token) : List Token :=
  (tokens.foldl step start).found.reverse

end Stricture.Docstring
