import ClassMaps.Console.Handler
import ClassMaps.Text.Quoted

/-!
# Console markup

A bracket that starts with a small letter, `#`, `/` or `@` and holds no other
bracket is a tag and is not shown.  An odd number of backslashes before it
makes it plain text; each pair of them shows one.  A tag opens a style; with a
slash it closes the innermost style of its name, or the innermost one if it
names none.  A tag that starts with `@` and is given a handler must have one that
can be read, when it is closed.
-/

set_option autoImplicit false

namespace ClassMaps

/-- A closing tag that closes nothing, at an offset into the message, or one that
closes a tag with a handler that cannot be read. -/
inductive MarkupFault
  | unmatched (tag : Text) (offset : Nat)
  | nothingOpen (offset : Nat)
  | handler (given : Text)
deriving DecidableEq

/-- The message of a fault.  What is wrong with a handler is not said any closer. -/
def MarkupFault.message : MarkupFault → Text
  | .unmatched tag offset =>
      text "closing tag '[" ++ tag ++ text "]' at position " ++ Text.ofNat offset ++
        text " doesn't match any open tag"
  | .nothingOpen offset =>
      text "closing tag '[/]' at position " ++ Text.ofNat offset ++ text " has nothing to close"
  | .handler given => text "error parsing " ++ Text.quoted given

namespace Markup

/-- One piece of a message: text that is shown, or a tag at an offset. -/
inductive Piece
  | plain (content : Text)
  | tag (offset : Nat) (body : Text)

def startsTag (c : CodePoint) : Bool :=
  (0x61 ≤ c.val && c.val ≤ 0x7A) || c.isOneOf ['#', '/', '@']

/-- The inside of the tag at the start of the text. -/
def tagAt? : Text → Option Text
  | b :: c :: rest =>
      let inside := rest.takeWhile fun d => !d.isOneOf ['[', ']']
      if b.is '[' && startsTag c && (rest.drop inside.length).head?.any (·.is ']') then
        some (c :: inside)
      else none
  | _ => none

def backslashes (s : Text) : Nat := (s.takeWhile (·.is '\\')).length

/-- The tag at the start of the text, after backslashes: their number and the
inside of the tag. -/
def escapedTag? (s : Text) : Option (Nat × Text) :=
  (tagAt? (s.drop (backslashes s))).map fun body => (backslashes s, body)

/-- The pieces of a message.  The first `skip` code points belong to a piece
that has been given. -/
def pieces : Nat → Nat → Text → List Piece
  | _, _, [] => []
  | skip + 1, offset, _ :: rest => pieces skip (offset + 1) rest
  | 0, offset, c :: rest =>
      match escapedTag? (c :: rest) with
      | some (count, body) =>
          let shown := List.replicate (count / 2) (CodePoint.ofChar '\\')
          let piece : Piece :=
            if count % 2 = 1 then .plain (sign '[' ++ body ++ sign ']')
            else .tag (offset + count) body
          .plain shown :: piece :: pieces (count + body.length + 1) (offset + 1) rest
      | none =>
          if c.is '\\' && rest.head?.any (·.is '[') then
            .plain (sign '[') :: pieces 1 (offset + 1) rest
          else .plain [c] :: pieces 0 (offset + 1) rest

/-- An open tag: the name of its style, and what stands after its equals sign. -/
structure Opened where
  name : Text
  given : Text

/-- Whether the tag can be closed. -/
def Opened.isSound (tag : Opened) : Bool :=
  !tag.name.head?.any (·.is '@') || tag.given.isEmpty || Handler.isRead tag.given

/-- The innermost open tag of the name, and the tags that stay open. -/
def close? (name : Text) : List Opened → Option (Opened × List Opened)
  | [] => none
  | tag :: rest =>
      if tag.name = name then some (tag, rest)
      else (close? name rest).map fun (found, left) => (found, tag :: left)

/-- The open tags after one has been closed. -/
def afterClosed : Opened × List Opened → Except MarkupFault (List Opened)
  | (tag, left) => if tag.isSound then .ok left else .error (.handler tag.given)

/-- The open tags after a tag, innermost first. -/
def afterTag (offset : Nat) (body : Text) (tags : List Opened) :
    Except MarkupFault (List Opened) :=
  let name := body.takeWhile fun c => !c.is '='
  let opened : Opened := ⟨Style.normalName name, (body.drop name.length).tail⟩
  match name with
  | [] => .ok (opened :: tags)
  | c :: closed =>
      if !c.is '/' then .ok (opened :: tags)
      else if (Style.trimmed closed).isEmpty then
        match tags with
        | [] => .error (.nothingOpen offset)
        | tag :: rest => afterClosed (tag, rest)
      else
        match close? (Style.normalName closed) tags with
        | none => .error (.unmatched body offset)
        | some found => afterClosed found

def shown : List Opened → List Piece → Except MarkupFault Text
  | _, [] => .ok []
  | tags, .plain content :: rest => (shown tags rest).map (content ++ ·)
  | tags, .tag offset body :: rest =>
      match afterTag offset body tags with
      | .error fault => .error fault
      | .ok tags => shown tags rest

def render (message : Text) : Except MarkupFault Text := shown [] (pieces 0 0 message)

/-- A backslash more at the end of a text that ends in exactly one. -/
def escapeEnd (t : Text) : Text :=
  if backslashes t.reverse = 1 then t ++ sign '\\' else t

/-- Puts backslashes before everything that would be a tag.  The first `skip`
code points have been written. -/
def escapeTags : Nat → Text → Text
  | _, [] => []
  | skip + 1, _ :: rest => escapeTags skip rest
  | 0, c :: rest =>
      match escapedTag? (c :: rest) with
      | some (count, body) =>
          List.replicate (2 * count + 1) (CodePoint.ofChar '\\') ++ sign '[' ++ body ++ sign ']' ++
            escapeTags (count + body.length + 1) rest
      | none => c :: escapeTags 0 rest

/-- A message that shows the text itself. -/
def escape (t : Text) : Text := escapeEnd (escapeTags 0 t)

end Markup

end ClassMaps
