import LoopBound.Grammar.Match
import LoopBound.Syntax.Node

/-!
# Parts of a program

The meaning of a match. Every rule has a meaning that is put together from the meanings of the rules
it matched, and most of these are nodes of the syntax tree; some are only parts of one, such as the
parameters and body that methods and functions share.

Here and in the modules on operands, expressions and statements, a function names the shapes in
which the grammar delivers the parts of a rule. A shape that it never delivers means nothing.
-/

namespace LoopBound.Reading

open LoopBound.Syntax LoopBound.Grammar
open LoopBound.Text (Position)

/-- What is done to an operand by what follows it. -/
inductive Tail where
  | member (property : Node) (computed optional : Bool)
  | call (arguments : List Node) (optional : Bool)
  | template (quasi : Node)

/-- The operand with a tail applied; it begins where the operand does. -/
def Tail.apply (target : Node) : Tail → Node
  | member property computed optional =>
    .memberExpression target property computed optional target.loc
  | call arguments optional => .callExpression target arguments optional target.loc
  | template quasi => .taggedTemplateExpression target quasi target.loc

/-- The meaning of a match. -/
inductive Part where
  | nothing
  -- tokens and marks
  | token (t : Token) (text : String) (loc : Position)
  | name (name : String) (loc : Position)
  | kind (k : VariableKind)
  | accessor (k : MemberKind)
  | async
  | star
  | static
  | comma
  -- parts of functions, classes and objects
  | head (isAsync generator : Bool)
  | function (params : List Node) (body : Node)
  | key (key : Node) (computed : Bool)
  | property (n : Node)
  | properties (ns : List Node)
  | member (n : Node)
  | members (ns : List Node)
  | heritage (superclass : Node)
  | classTail (superclass : Option Node) (members : List Node)
  -- binding patterns
  | pattern (n : Node)
  | patterns (ns : List Node)
  -- expressions and parts of them
  | expression (n : Node)
  | item (n : Node)
  | items (ns : List Node)
  | arguments (ns : List Node)
  | substitution (n : Node)
  | template (n : Node)
  | tail (t : Tail)
  | branches (consequent alternate : Node)
  | body (n : Node)
  -- statements and parts of them
  | declarator (n : Node)
  | declaration (n : Node)
  | binding (n : Node)
  | init (n : Node)
  | test (n : Node)
  | update (n : Node)
  | block (n : Node)
  | handler (n : Node)
  | finalizer (n : Node)
  | label (test : Option Node)
  | case (n : Node)
  | cases (ns : List Node)
  | statement (n : Node)
  | statements (ns : List Node)
  | program (n : Node)

namespace Part

/-- The identifier of a name. -/
def ident (name : String) (loc : Position) : Node :=
  .identifier name loc

/-! ## Selecting parts -/

/-- The one part of a rule that only chooses among others. -/
def only : List Part → Part
  | [p] => p
  | _ => nothing

/-- Splits off a leading mark. -/
def splitStatic : List Part → Bool × List Part
  | static :: ps => (true, ps)
  | ps => (false, ps)

/-- Splits off a leading mark. -/
def splitStar : List Part → Bool × List Part
  | star :: ps => (true, ps)
  | ps => (false, ps)

/-- Splits off a leading mark. -/
def splitAsync : List Part → Bool × List Part
  | async :: ps => (true, ps)
  | ps => (false, ps)

/-- Splits off a leading name. -/
def splitName : List Part → Option Node × List Part
  | name s loc :: ps => (some (ident s loc), ps)
  | ps => (none, ps)

/-- Splits off the first part of a loop header. -/
def splitInit : List Part → Option Node × List Part
  | init n :: ps => (some n, ps)
  | ps => (none, ps)

/-- Splits off the second part of a loop header. -/
def splitTest : List Part → Option Node × List Part
  | test n :: ps => (some n, ps)
  | ps => (none, ps)

/-- Splits off the third part of a loop header. -/
def splitUpdate : List Part → Option Node × List Part
  | update n :: ps => (some n, ps)
  | ps => (none, ps)

/-- The entries of a list in brackets: what stands between commas, or a hole. Nothing behind the
last comma adds no hole. -/
def entries (item? : Part → Option Node) (ps : List Part) : List (Option Node) :=
  go none ps
where
  go (pending : Option Node) : List Part → List (Option Node)
    | [] => (pending.map some).toList
    | comma :: ps => pending :: go none ps
    | p :: ps => go (item? p) ps

theorem mem_entries_go {item? : Part → Option Node} {pending : Option Node} {ps : List Part}
    {n : Node} (h : some n ∈ entries.go item? pending ps) :
    pending = some n ∨ ∃ p ∈ ps, item? p = some n := by
  induction ps generalizing pending with
  | nil =>
    simp only [entries.go, Option.mem_toList, Option.map_eq_some_iff, Option.some.injEq] at h
    obtain ⟨m, hm, rfl⟩ := h
    exact .inl hm
  | cons p ps ih =>
    have hlater : (item? p = some n ∨ ∃ q ∈ ps, item? q = some n) → pending = some n
        ∨ ∃ q ∈ p :: ps, item? q = some n := by
      simp +contextual
    unfold entries.go at h
    split at h
    · simp at *
    · rename_i heq
      obtain ⟨rfl, rfl⟩ := List.cons.inj heq
      rcases List.mem_cons.1 h with h | h
      · exact .inl h.symm
      · exact hlater ((ih h).imp_left (by simp))
    · rename_i heq
      obtain ⟨rfl, rfl⟩ := List.cons.inj heq
      exact hlater (ih h)

/-- Every entry is an item of the list. -/
theorem mem_entries {item? : Part → Option Node} {ps : List Part} {n : Node}
    (h : some n ∈ entries item? ps) : ∃ p ∈ ps, item? p = some n :=
  (mem_entries_go h).resolve_left (by simp)

/-- An item of an array or argument list. -/
def item? : Part → Option Node
  | item n => some n
  | _ => none

/-- A binding pattern. -/
def pattern? : Part → Option Node
  | pattern n => some n
  | _ => none

/-- A property. -/
def property? : Part → Option Node
  | property n => some n
  | _ => none

/-- A member of a class. -/
def member? : Part → Option Node
  | member n => some n
  | _ => none

/-- An expression. -/
def expression? : Part → Option Node
  | expression n => some n
  | _ => none

/-- A declarator. -/
def declarator? : Part → Option Node
  | declarator n => some n
  | _ => none

/-- A case. -/
def case? : Part → Option Node
  | case n => some n
  | _ => none

/-- A statement. -/
def statement? : Part → Option Node
  | statement n => some n
  | _ => none

/-- What is done to an operand. -/
def tail? : Part → Option Tail
  | tail t => some t
  | _ => none

/-! ## Names, marks and tokens -/

/-- The meaning of a token. -/
def ofToken (loc : Position) (t : Token) (text : List Char) : Part :=
  token t (String.ofList text) loc

/-- A name that is an identifier. -/
def identifier : List Part → Part
  | [token .name s loc] => name s loc
  | _ => nothing

/-- A name behind a dot. -/
def propertyIdentifier : List Part → Part
  | [token .name s loc] => expression (ident s loc)
  | [token .privateName s loc] => expression (ident s loc)
  | _ => nothing

/-- The word of a declaration. -/
def declarationKind : List Part → Part
  | [token (.keyword .var) _ _] => kind .var
  | [token (.keyword .let) _ _] => kind .let
  | [token (.keyword .const) _ _] => kind .const
  | _ => nothing

/-- The word of an accessor. -/
def accessorKind : List Part → Part
  | [token (.keyword .get) _ _] => accessor .get
  | [token (.keyword .set) _ _] => accessor .set
  | _ => nothing

/-- The marks of a function. -/
def functionHead (ps : List Part) : Part :=
  let (isAsync, ps) := splitAsync ps
  let (generator, _) := splitStar ps
  head isAsync generator

end Part

end LoopBound.Reading
