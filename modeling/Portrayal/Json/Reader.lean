import Portrayal.Json.Token

/-!
Reading a document from tokens. The reader is a machine with a stack: a frame for each array or
object that is still open, and what may come next. Every token moves it one step, so reading is one
fold over the tokens and needs no bound on the nesting.
-/

namespace Portrayal.Json

/-- An array or object that is still open; what it holds so far is in reverse order. -/
inductive Frame where
  | array (items : List Json)
  | object (members : List (String × Json)) (key : Option String) (sound : Bool)

/-- What may come next. -/
inductive Expected where
  | value
  | valueOrClose
  | key
  | keyOrClose
  | colon
  /-- A value is complete; an enclosing frame, if any, takes it in. -/
  | done (value : Json)

/-- The state of reading: the open frames, innermost first, and what may come next. -/
structure Reader where
  frames : List Frame
  expected : Expected

/-- Before the first token. -/
def Reader.initial : Reader := ⟨[], .value⟩

/-- A frame with one more value in it. -/
def Frame.take (value : Json) : Frame → Frame
  | .array items => .array (value :: items)
  | .object members (some key) sound => .object ((key, value) :: members) none sound
  | .object members none _ => .object members none false

/-- The document that a closed frame is. An object with a key that no string holds cannot be held,
and neither can a frame below the deepest level. -/
def Frame.close (depth : Nat) (frame : Frame) : Json :=
  if maxDepth < depth then .unheld
  else
    match frame with
    | .array items => .array items.reverse
    | .object members _ true => .object members.reverse
    | .object _ _ false => .unheld

/-- The state after closing the innermost frame. -/
def Reader.closed (frame : Frame) (rest : List Frame) : Reader :=
  ⟨rest, .done (frame.close (rest.length + 1))⟩

/-- One token; none where no document continues that way. -/
def Reader.step? (r : Reader) (t : Token) : Option Reader :=
  match r.expected, t, r.frames with
  | .value, .openArray, frames => some ⟨.array [] :: frames, .valueOrClose⟩
  | .valueOrClose, .openArray, frames => some ⟨.array [] :: frames, .valueOrClose⟩
  | .value, .openObject, frames => some ⟨.object [] none true :: frames, .keyOrClose⟩
  | .valueOrClose, .openObject, frames => some ⟨.object [] none true :: frames, .keyOrClose⟩
  | .value, .string s, frames => some ⟨frames, .done (s.elim .unheld .text)⟩
  | .valueOrClose, .string s, frames => some ⟨frames, .done (s.elim .unheld .text)⟩
  | .value, .literal v, frames => some ⟨frames, .done v⟩
  | .valueOrClose, .literal v, frames => some ⟨frames, .done v⟩
  | .valueOrClose, .closeArray, .array items :: frames => some (.closed (.array items) frames)
  | .key, .string s, .object members _ sound :: frames =>
    some ⟨.object members s sound :: frames, .colon⟩
  | .keyOrClose, .string s, .object members _ sound :: frames =>
    some ⟨.object members s sound :: frames, .colon⟩
  | .keyOrClose, .closeObject, .object members key sound :: frames =>
    some (.closed (.object members key sound) frames)
  | .colon, .colon, frames => some ⟨frames, .value⟩
  | .done v, .comma, .array items :: frames => some ⟨(Frame.array items).take v :: frames, .value⟩
  | .done v, .comma, .object members key sound :: frames =>
    some ⟨(Frame.object members key sound).take v :: frames, .key⟩
  | .done v, .closeArray, .array items :: frames =>
    some (.closed ((Frame.array items).take v) frames)
  | .done v, .closeObject, .object members key sound :: frames =>
    some (.closed ((Frame.object members key sound).take v) frames)
  | _, _, _ => none

/-- The state after a list of tokens. -/
def Reader.run? (r : Reader) : List Token → Option Reader
  | [] => some r
  | t :: rest =>
    match r.step? t with
    | some r' => r'.run? rest
    | none => none

/-- The document that a text is; none if the text is not well formed. -/
def read? (s : String) : Option Json := do
  let tokens ← Token.ofString? s
  match ← Reader.initial.run? tokens with
  | ⟨[], .done v⟩ => some v
  | _ => none

end Portrayal.Json
