import ClassMaps.Entry
import ClassMaps.Log
import ClassMaps.Module
import ClassMaps.Settings

/-!
# Sessions

A session walks trees, resolves their class maps and keeps account: the
diagnostics so far, the number of class maps resolved, the log, and a stack
of the calls that the walk is inside of.

A call is looked at twice.  On the way down it is judged as it stands in the
input, its defects are recorded, and the path of its style module is put on
the stack, or nothing if it has no class map to resolve.  On the way up the
path is taken off again and the entries are resolved, whose inner expressions
have been walked by then.

A fault ends a walk at once.  The account up to it stays, and so do the paths
of the calls that were not left.

A visitor is a session between its walks.  A walk with positions is one of a copy
of the tree, made for it; when it returns, the positions are cleared, and when it
fails, they stay, so that this copy could be walked again and be found to have
positions.
-/

set_option autoImplicit false

namespace ClassMaps

/-- Why a walk ends early.  `missing` is for what the way up looks for and does not
find: a path on the stack, or the class map that the path is for. -/
inductive Fault
  | literal (fault : LiteralFault)
  | name (fault : NameFault)
  | noPosition
  | markup (fault : MarkupFault)
  | missing
deriving DecidableEq

def EntryFault.toFault : EntryFault → Fault
  | .literal fault => .literal fault
  | .name fault => .name fault

structure Session where
  diagnostics : List Diagnostic
  resolved : Nat
  records : List Record
  paths : List (Option Text)

def Session.fresh : Session := ⟨[], 0, [], []⟩

/-- What a walk depends on and does not change. -/
structure Context where
  settings : Settings
  threshold : Int
  newline : Text

abbrev Walk := ExceptT Fault (StateM Session)

/-- Where a piece of the tree starts, if positions are known. -/
abbrev Site := Option Cursor

namespace Site

def past (site : Site) (t : Text) : Site := site.map (·.past t)

/-- The site of the expression inside its own parentheses. -/
def start (newline : Text) : Site → Expr → Site
  | site, .paren opening inner _ =>
      start newline (site.past (sign '(' ++ Gap.print newline opening)) inner
  | site, _ => site

/-- The sites of the values of a row of arguments that starts at `site`. -/
def ofSlots (newline : Text) : Site → List (Slot Expr) → List Site
  | _, [] => []
  | site, slot :: rest =>
      site.past (slot.mark.print newline) ::
        ofSlots newline (site.past (slot.print newline)) rest

/-- The site of the value of an element that starts at `site`. -/
def ofValue (newline : Text) (site : Site) : Element Expr → Site
  | .pair key before after _ _ =>
      site.past (key.print newline ++ Gap.print newline before ++ sign ':' ++
        Gap.print newline after)
  | .spread gap _ _ => site.past (sign '*' ++ sign '*' ++ Gap.print newline gap)

end Site

/-! ## Judging a call -/

namespace Call

/-- The name of the function whose calls may declare a class map. -/
def applyName : Text := text "A2"

/-- Whether a call of this function with these arguments declares a class map
for the tagger. -/
def declares (tagger : Text) (function : Expr) (arguments : List (Slot Expr)) : Bool :=
  match arguments with
  | [] => false
  | first :: _ => function.isName applyName && first.isPositional && first.value.isName tagger

/-- What is wrong with a declaration. -/
inductive Malformation
  | count (found : Nat)
  | notPositional
  | path
  | classMap
deriving DecidableEq

def Malformation.detail : Malformation → Text
  | .count found => text "expected 3 arguments, found " ++ Text.ofNat found
  | .notPositional => text "arguments must be positional"
  | .path => text "second argument is not a string literal"
  | .classMap => text "third argument is not a dict literal"

/-- What a call is, once judged. -/
inductive Verdict
  | plain
  | malformed (reason : Malformation)
  | classMap (path : Text) (opening : Gap) (elements : List (Element Expr))

/-- Judges the arguments of a declaration. -/
def unpack (arguments : List (Slot Expr)) : Except LiteralFault Verdict :=
  match arguments with
  | [first, second, third] =>
      if first.isPositional && second.isPositional && third.isPositional then
        match second.value.stringValue with
        | .error fault => .error fault
        | .ok none => .ok (.malformed .path)
        | .ok (some path) =>
            match third.value.stripped with
            | .dict opening elements _ => .ok (.classMap path opening elements)
            | _ => .ok (.malformed .classMap)
      else .ok (.malformed .notPositional)
  | _ => .ok (.malformed (.count arguments.length))

/-- Judges a call. -/
def verdict (tagger : Text) (function : Expr) (arguments : List (Slot Expr)) :
    Except LiteralFault Verdict :=
  if declares tagger function arguments then unpack arguments else .ok .plain

end Call

/-! ## The walk -/

namespace Walk

def fail {α : Type} (fault : Fault) : Walk α := throw fault

/-- A site that must be known. -/
def position : Site → Walk Position
  | none => fail .noPosition
  | some k => pure k.position

def ofLiteral {α : Type} : Except LiteralFault α → Walk α
  | .ok a => pure a
  | .error fault => fail (.literal fault)

def ofEntry {α : Type} : Except EntryFault α → Walk α
  | .ok a => pure a
  | .error fault => fail fault.toFault

def diagnose (d : Diagnostic) : Walk Unit :=
  modify fun s => { s with diagnostics := s.diagnostics ++ [d] }

def push (path : Option Text) : Walk Unit :=
  modify fun s => { s with paths := path :: s.paths }

/-- Takes the innermost path off the stack. -/
def pop : Walk (Option Text) := do
  match (← get).paths with
  | [] => fail .missing
  | path :: rest =>
      modify fun s => { s with paths := rest }
      return path

def log (threshold : Int) (record : Record) : Walk Unit := do
  match Log.add threshold (← get).records record with
  | .error fault => fail (.markup fault)
  | .ok records => modify fun s => { s with records := records }

/-- Judges the elements of a class map in order and records their defects. -/
def judgeAll (context : Context) (path : Text) : Site → List (Element Expr) → Walk Unit
  | _, [] => pure ()
  | site, element :: rest => do
      let value := Site.ofValue context.newline site element
      let p ← position (Site.start context.newline value element.value)
      let judgement ← ofEntry (Entry.judge path context.settings.loader element p)
      match judgement.diagnostic with
      | none => pure ()
      | some d => diagnose d
      judgeAll context path (site.past (element.print context.newline)) rest

/-- The site that a malformation is reported at: the call, or the argument that
is wrong. -/
def malformationSite (newline : Text) (site inside : Site) (arguments : List (Slot Expr)) :
    Call.Malformation → Site
  | .count _ => site
  | .notPositional => site
  | .path => argumentSite 1
  | .classMap => argumentSite 2
where
  argumentSite (i : Nat) : Site :=
    match (Site.ofSlots newline inside arguments)[i]?, arguments[i]? with
    | some argument, some slot => Site.start newline argument slot.value
    | _, _ => none

/-- The site of the first element of the class map in the third argument. -/
def elementsSite (newline : Text) (inside : Site) (arguments : List (Slot Expr))
    (opening : Gap) : Site :=
  match (Site.ofSlots newline inside arguments)[2]?, arguments[2]? with
  | some argument, some slot =>
      (Site.start newline argument slot.value).past (sign '\x7b' ++ Gap.print newline opening)
  | _, _ => none

/-- On the way down: judges a call at `site` whose arguments start at `inside`. -/
def enter (context : Context) (site inside : Site) (function : Expr)
    (arguments : List (Slot Expr)) : Walk Unit := do
  match ← ofLiteral (Call.verdict context.settings.tagger function arguments) with
  | .plain => push none
  | .malformed reason => do
      let p ← position (malformationSite context.newline site inside arguments reason)
      diagnose ⟨.malformedExpression, none, context.settings.tagger, p, some reason.detail⟩
      push none
  | .classMap path opening elements => do
      judgeAll context path (elementsSite context.newline inside arguments opening) elements
      push (some path)

/-- The elements of a class map as they are after the walk inside it, each with the
element that it was in the input, resolved in order.  They are judged once more,
at the positions of the input; what is wrong with them has been recorded. -/
def resolveAll (context : Context) (path : Text) :
    Site → List (Element Expr × Element Expr) → Walk (List (Element Expr))
  | _, [] => pure []
  | site, (original, element) :: rest => do
      let value := Site.ofValue context.newline site original
      let p ← position (Site.start context.newline value original.value)
      let judgement ← ofEntry (Entry.judge path context.settings.loader element p)
      return Entry.apply element judgement ::
        (← resolveAll context path (site.past (original.print context.newline)) rest)

/-- The dict display inside its parentheses with other elements. -/
def withElements : Expr → List (Element Expr) → Expr
  | .paren opening inner closing, elements => .paren opening (withElements inner elements) closing
  | .dict opening _ closing, elements => .dict opening elements closing
  | e, _ => e

/-- The dict display in the third argument: its opening and its elements. -/
def display? (arguments : List (Slot Expr)) : Option (Gap × List (Element Expr)) :=
  match arguments[2]? with
  | none => none
  | some slot =>
      match slot.value.stripped with
      | .dict opening elements _ => some (opening, elements)
      | _ => none

/-- On the way up: resolves the class map of a call that has one, and counts it.
The arguments start at `inside` in the input, and `walked` is what they are now. -/
def leave (context : Context) (inside : Site) (arguments walked : List (Slot Expr)) :
    Walk (List (Slot Expr)) := do
  match ← pop with
  | none => return walked
  | some path =>
      match display? arguments, walked with
      | some (opening, originals), first :: second :: third :: _ => do
          let elements ← resolveAll context path
            (elementsSite context.newline inside arguments opening)
            (originals.zip third.value.elements)
          modify fun s => { s with resolved := s.resolved + 1 }
          log context.threshold ⟨.classMap, .debug,
            text "Rewrote class map for '" ++ path ++ text "' (" ++ Text.ofNat elements.length ++
              text " entries)"⟩
          return [first, second, third.withValue (withElements third.value elements)]
      | _, _ => fail .missing

end Walk

mutual

/-- Walks an expression that starts at `site`. -/
def Expr.walk (context : Context) : Site → Expr → Walk Expr
  | _, .name text => return .name text
  | _, .string text => return .string text
  | site, .formatted parts => return .formatted (← Part.walkAll context site parts)
  | site, .concat left gap right => do
      let left' ← left.walk context site
      let right' ← right.walk context
        (site.past (left.print context.newline ++ Gap.print context.newline gap))
      return .concat left' gap right'
  | site, .call function gap opening arguments closing => do
      let inside := site.past (function.print context.newline ++ Gap.print context.newline gap ++
        sign '(' ++ Gap.print context.newline opening)
      Walk.enter context site inside function arguments
      let function' ← function.walk context site
      let arguments' ← Slot.walkAll context inside arguments
      let resolved ← Walk.leave context inside arguments arguments'
      return .call function' gap opening resolved closing
  | site, .subscript value gap opening indices closing => do
      let value' ← value.walk context site
      let inside := site.past (value.print context.newline ++ Gap.print context.newline gap ++
        sign '[' ++ Gap.print context.newline opening)
      let indices' ← Slot.walkAll context inside indices
      return .subscript value' gap opening indices' closing
  | site, .dict opening elements closing => do
      let inside := site.past (sign '\x7b' ++ Gap.print context.newline opening)
      return .dict opening (← Element.walkAll context inside elements) closing
  | site, .other form parts => return .other form (← Part.walkAll context site parts)
  | site, .paren opening inner closing => do
      let inside := site.past (sign '(' ++ Gap.print context.newline opening)
      return .paren opening (← inner.walk context inside) closing

def Slot.walkAll (context : Context) : Site → List (Slot Expr) → Walk (List (Slot Expr))
  | _, [] => return []
  | site, ⟨mark, value, comma⟩ :: rest => do
      let inside := site.past (mark.print context.newline)
      let value' ← value.walk context inside
      let after := inside.past (value.print context.newline ++ Comma.print context.newline comma)
      return ⟨mark, value', comma⟩ :: (← Slot.walkAll context after rest)

def Element.walkAll (context : Context) : Site → List (Element Expr) → Walk (List (Element Expr))
  | _, [] => return []
  | site, .pair key before after value comma :: rest => do
      let key' ← key.walk context site
      let inside := site.past (key.print context.newline ++ Gap.print context.newline before ++
        sign ':' ++ Gap.print context.newline after)
      let value' ← value.walk context inside
      let next := inside.past (value.print context.newline ++ Comma.print context.newline comma)
      return .pair key' before after value' comma :: (← Element.walkAll context next rest)
  | site, .spread gap value comma :: rest => do
      let inside := site.past (sign '*' ++ sign '*' ++ Gap.print context.newline gap)
      let value' ← value.walk context inside
      let next := inside.past (value.print context.newline ++ Comma.print context.newline comma)
      return .spread gap value' comma :: (← Element.walkAll context next rest)

def Part.walkAll (context : Context) : Site → List (Part Expr) → Walk (List (Part Expr))
  | _, [] => return []
  | site, .gap trivia :: rest =>
      return .gap trivia ::
        (← Part.walkAll context (site.past (Gap.print context.newline trivia)) rest)
  | site, .token text :: rest =>
      return .token text :: (← Part.walkAll context (site.past text) rest)
  | site, .expr value :: rest => do
      let value' ← value.walk context site
      return .expr value' ::
        (← Part.walkAll context (site.past (value.print context.newline)) rest)

end

namespace Session

/-- Walks a module, with or without positions. -/
def visit (settings : Settings) (threshold : Int) (positions : Bool) (m : Module) :
    Walk Module := do
  let site : Site := if positions then some .origin else none
  return { m with parts := ← Part.walkAll ⟨settings, threshold, m.newline⟩ site m.parts }

/-- The report of a session that has recorded a defect. -/
def report? (s : Session) : Option Text :=
  if s.diagnostics.isEmpty then none else some (Diagnostic.report s.diagnostics)

end Session

/-! ## Many walks -/

/-- A session between its walks and, if the last walk with positions has failed, the
copy that it was of, whose positions are still known. -/
structure Visitor where
  session : Session
  left : Option Module

/-- What a visitor is used for: a tree is walked, with positions in a copy of its own
or without any; the copy that a failed walk has left is walked once more, for which
no positions are asked; or the visitor is asked for its report. -/
inductive Step
  | walk (positions : Bool) (m : Module)
  | walkLeft
  | finish

/-- What a step gives. -/
inductive Answer
  | walked (m : Module)
  | failed (fault : Fault)
  | nothingLeft
  | finished
  | reported (report : Text)

namespace Visitor

def fresh : Visitor := ⟨.fresh, none⟩

section Steps
variable (settings : Settings) (threshold : Int)

/-- What a walk gives, and the session after it. -/
def walk (s : Session) (positions : Bool) (m : Module) : Answer × Session :=
  match Session.visit settings threshold positions m s with
  | (.ok walked, s') => (.walked walked, s')
  | (.error fault, s') => (.failed fault, s')

/-- The copy of `m` that is left after a walk with positions. -/
def leftAfter (m : Module) : Answer → Option Module
  | .failed _ => some m
  | _ => none

def step (v : Visitor) : Step → Answer × Visitor
  | .walk true m =>
      let (answer, s) := walk settings threshold v.session true m
      (answer, ⟨s, leftAfter m answer⟩)
  | .walk false m =>
      let (answer, s) := walk settings threshold v.session false m
      (answer, ⟨s, v.left⟩)
  | .walkLeft =>
      match v.left with
      | none => (.nothingLeft, v)
      | some m =>
          let (answer, s) := walk settings threshold v.session true m
          (answer, ⟨s, v.left⟩)
  | .finish =>
      match v.session.report? with
      | none => (.finished, v)
      | some report => (.reported report, v)

def steps (v : Visitor) (done : List Step) : Visitor :=
  done.foldl (fun v next => (v.step settings threshold next).2) v

end Steps

end Visitor

end ClassMaps
