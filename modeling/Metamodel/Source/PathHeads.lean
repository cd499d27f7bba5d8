import Metamodel.Source.Syntax

/-!
The first segments of the paths a type mentions.

Every path inside a type counts: paths of nested types, of trait bounds, of macro
invocations, of qualified self types, of attributes and of expressions (array lengths,
constant arguments, attribute values), including the names of shorthand struct literal
fields. A path written with a
leading `::` names nothing in scope and is left out, but the paths inside its arguments
still count.
-/

namespace Metamodel.Source

mutual

/-- The first segments of the paths in a type, in visiting order, with repetitions. -/
def Ty.pathHeads : Ty → List String
  | .array elem len => elem.pathHeads ++ len.pathHeads
  | .bareFn _ _ _ inputs _ variadic output =>
    FnArg.pathHeadsList inputs ++
      (match variadic with
        | some (.mk attrs _ _) => Attribute.pathHeadsList attrs
        | none => []) ++ Ty.pathHeadsOpt output
  | .group elem => elem.pathHeads
  | .implTrait bounds _ => Bound.pathHeadsList bounds
  | .infer => []
  | .mac path _ _ => path.pathHeads
  | .never => []
  | .paren elem => elem.pathHeads
  | .path none path => path.pathHeads
  | .path (some (.mk ty _ _)) path => ty.pathHeads ++ path.pathHeads
  | .ptr _ elem => elem.pathHeads
  | .reference _ _ elem => elem.pathHeads
  | .slice elem => elem.pathHeads
  | .traitObject _ bounds _ => Bound.pathHeadsList bounds
  | .tuple elems _ => Ty.pathHeadsList elems
  | .verbatim _ => []

/-- The path heads of each type of a list. -/
def Ty.pathHeadsList : List Ty → List String
  | [] => []
  | t :: more => t.pathHeads ++ Ty.pathHeadsList more

/-- The path heads of an optional type. -/
def Ty.pathHeadsOpt : Option Ty → List String
  | none => []
  | some t => t.pathHeads

/-- The path heads of function pointer arguments. -/
def FnArg.pathHeadsList : List FnArg → List String
  | [] => []
  | .mk attrs _ ty :: more => Attribute.pathHeadsList attrs ++ ty.pathHeads ++ FnArg.pathHeadsList more

/-- The path heads of attributes: the path of each, and those in a value after `=`. -/
def Attribute.pathHeadsList : List Attribute → List String
  | [] => []
  | ⟨_, content⟩ :: more =>
    (match content with
      | .path p => p.pathHeads
      | .list p _ _ => p.pathHeads
      | .nameValue p v => p.pathHeads ++ v.pathHeads) ++ Attribute.pathHeadsList more

/-- The head of a path (unless it starts with `::`) and the heads inside its arguments. -/
def Path.pathHeads : Path → List String
  | .mk leading segments =>
    (if leading then []
     else match segments with
       | .mk i _ :: _ => [i.text]
       | [] => []) ++ Segment.pathHeadsList segments

/-- The path heads inside the arguments of segments. -/
def Segment.pathHeadsList : List Segment → List String
  | [] => []
  | .mk _ args :: more => args.pathHeads ++ Segment.pathHeadsList more

/-- The path heads inside segment arguments. -/
def PathArgs.pathHeads : PathArgs → List String
  | .none => []
  | .angle _ args _ => GenericArg.pathHeadsList args
  | .paren inputs _ output => Ty.pathHeadsList inputs ++ Ty.pathHeadsOpt output

/-- The path heads inside generic arguments. -/
def GenericArg.pathHeadsList : List GenericArg → List String
  | [] => []
  | a :: more => a.pathHeads ++ GenericArg.pathHeadsList more

/-- The path heads inside a generic argument. -/
def GenericArg.pathHeads : GenericArg → List String
  | .lifetime _ => []
  | .type ty => ty.pathHeads
  | .const value => value.pathHeads
  | .assocType _ generics ty => generics.pathHeads ++ ty.pathHeads
  | .assocConst _ generics value => generics.pathHeads ++ value.pathHeads
  | .constraint _ generics bounds _ => generics.pathHeads ++ Bound.pathHeadsList bounds

/-- The path heads of bounds. -/
def Bound.pathHeadsList : List Bound → List String
  | [] => []
  | .trait _ _ _ _ path :: more => path.pathHeads ++ Bound.pathHeadsList more
  | _ :: more => Bound.pathHeadsList more

/-- The path heads in an expression. -/
def Expr.pathHeads : Expr → List String
  | .lit _ => []
  | .path none path => path.pathHeads
  | .path (some (.mk ty _ _)) path => ty.pathHeads ++ path.pathHeads
  | .block stmts => Stmt.pathHeadsList stmts
  | .unary _ operand => operand.pathHeads
  | .reference _ operand => operand.pathHeads
  | .binary left _ right => left.pathHeads ++ right.pathHeads
  | .paren inner => inner.pathHeads
  | .call func args _ => func.pathHeads ++ Expr.pathHeadsList args
  | .methodCall receiver _ turbofish args _ =>
    receiver.pathHeads ++
      (match turbofish with
        | some (targs, _) => GenericArg.pathHeadsList targs
        | none => []) ++ Expr.pathHeadsList args
  | .field base _ => base.pathHeads
  | .index base index => base.pathHeads ++ index.pathHeads
  | .cast operand ty => operand.pathHeads ++ ty.pathHeads
  | .array elems _ => Expr.pathHeadsList elems
  | .repeat elem len => elem.pathHeads ++ len.pathHeads
  | .tuple elems _ => Expr.pathHeadsList elems
  | .mac path _ _ => path.pathHeads
  | .structLit qself path fields _ restExpr =>
    (match qself with
      | some (.mk ty _ _) => ty.pathHeads
      | none => []) ++ path.pathHeads ++ FieldValue.pathHeadsList fields ++
      (match restExpr with
        | some (some e) => e.pathHeads
        | _ => [])
  | .range start _ stop =>
    (match start with
      | some e => e.pathHeads
      | none => []) ++
      (match stop with
        | some e => e.pathHeads
        | none => [])
  | .question operand => operand.pathHeads
  | .infer => []
  | .verbatim _ => []

/-- The path heads of each expression of a list. -/
def Expr.pathHeadsList : List Expr → List String
  | [] => []
  | e :: more => e.pathHeads ++ Expr.pathHeadsList more

/-- The path heads of struct literal fields. -/
def FieldValue.pathHeadsList : List FieldValue → List String
  | [] => []
  | .mk _ _ value :: more => value.pathHeads ++ FieldValue.pathHeadsList more

/-- The path heads of block statements. -/
def Stmt.pathHeadsList : List Stmt → List String
  | [] => []
  | .expr value _ :: more => value.pathHeads ++ Stmt.pathHeadsList more
  | .verbatim _ :: more => Stmt.pathHeadsList more

end

end Metamodel.Source
