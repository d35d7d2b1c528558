import TypedPath.Schema.Constraint

/-! Names in a schema: every name that is used has to be declared around its use, and every name
that is bound has to be used. -/
namespace TypedPath.Schema

mutual

/-- The names that an expression refers to. -/
def Expr.names : Expr → List String
  | .reference n _ => [n]
  | .bound _ e | .minus e | .select e _ _ | .closed e _ => e.names
  | .both l r => l.names ++ r.names
  | .either es => namesOfAlternatives es
  | .struct ds _ => namesOfDecls ds
  | .list es rest => namesOfExprs es ++ namesOfRest rest
  | .top | .bottom | .atom _ | .kinds _ => []

def Decl.names : Decl → List String
  | .field _ _ _ e _ | .embed e | .binding _ e => e.names
  | .pattern f e _ => f.names ++ e.names
  | .rest _ => []

def namesOfExprs : List Expr → List String
  | [] => []
  | e :: es => e.names ++ namesOfExprs es

def namesOfAlternatives : List (Bool × Expr) → List String
  | [] => []
  | e :: es => namesOfAlternative e ++ namesOfAlternatives es

def namesOfAlternative : Bool × Expr → List String
  | (_, e) => e.names

def namesOfDecls : List Decl → List String
  | [] => []
  | d :: ds => d.names ++ namesOfDecls ds

def namesOfRest : Option (Position × Option Expr) → List String
  | none => []
  | some r => namesOfItem r

def namesOfItem : Position × Option Expr → List String
  | (_, none) => []
  | (_, some e) => e.names

end

/-- Whether the bound names among declarations are used by them, and are not declared as fields too.
-/
def bindingsUsed (ds : List Decl) : Bool :=
  ds.all fun d => match d with
    | .binding n _ =>
      (namesOfDecls ds).contains n && !ds.any fun
        | .field l true _ _ _ => l.name = n
        | _ => false
    | _ => true

mutual

/-- Whether every name in an expression is among those in scope, or is known everywhere. -/
def Expr.resolves (scope : List String) : Expr → Bool
  | .reference n _ => scope.contains n || (Expr.predeclared? n).isSome
  | .bound _ e | .minus e | .select e _ _ | .closed e _ => e.resolves scope
  | .both l r => l.resolves scope && r.resolves scope
  | .either es => alternativesResolve scope es
  | .struct ds _ =>
    bindingsUsed ds && declsResolve (ds.filterMap (·.visibleName?) ++ scope) ds
  | .list es rest => exprsResolve scope es && restResolves scope rest
  | .top | .bottom | .atom _ | .kinds _ => true

def Decl.resolves (scope : List String) : Decl → Bool
  | .field _ _ _ e _ | .embed e | .binding _ e => e.resolves scope
  | .pattern f e _ => f.resolves scope && e.resolves scope
  | .rest _ => true

def exprsResolve (scope : List String) : List Expr → Bool
  | [] => true
  | e :: es => e.resolves scope && exprsResolve scope es

def alternativesResolve (scope : List String) : List (Bool × Expr) → Bool
  | [] => true
  | e :: es => alternativeResolves scope e && alternativesResolve scope es

def alternativeResolves (scope : List String) : Bool × Expr → Bool
  | (_, e) => e.resolves scope

def declsResolve (scope : List String) : List Decl → Bool
  | [] => true
  | d :: ds => d.resolves scope && declsResolve scope ds

def restResolves (scope : List String) : Option (Position × Option Expr) → Bool
  | none => true
  | some r => itemResolves scope r

def itemResolves (scope : List String) : Position × Option Expr → Bool
  | (_, none) => true
  | (_, some e) => e.resolves scope

end

end TypedPath.Schema
