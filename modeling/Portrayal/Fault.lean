/-!
Faults. A fill fault stops the drawing of a feature whose fill pattern cannot be made. A misuse is a
call on something destroyed, or with something that belongs elsewhere.
-/

namespace Portrayal

/-- Why a fill pattern cannot be made. -/
inductive FillFault where
  /-- The bitmap of the symbol comes from a foreign origin. -/
  | crossOrigin (symbol : UInt8)
  /-- There is no bitmap for the symbol. -/
  | missingImage (symbol : UInt8)
  deriving DecidableEq, Repr

/-- The text of a fill fault. -/
def FillFault.message : FillFault → String
  | crossOrigin symbol =>
    "cross-origin: fill pattern 'System " ++ toString symbol.toNat ++ "' cannot be read back"
  | missingImage symbol => "fill pattern 'System " ++ toString symbol.toNat ++ "' is not loaded"

/-- The stages in the life of a binding. -/
inductive Stage where
  | bound
  | rendering
  | destroyed
  deriving DecidableEq, Repr

/-- The written name of a stage. -/
def Stage.name : Stage → String
  | bound => "Bound"
  | rendering => "Rendering"
  | destroyed => "Destroyed"

/-- A call that the state of things does not allow. -/
inductive Misuse where
  | sublayerDestroyed (sublayer : String)
  /-- A binding of `owner` was added to another sublayer. -/
  | foreignBinding (owner sublayer : String)
  /-- A binding was asked to draw while it was not ready. -/
  | bindingNotReady (sublayer : String) (stage : Stage)
  | bindingDestroyedTwice (sublayer : String)
  /-- A misuse in the words of the caller. -/
  | stated (message : String)
  deriving DecidableEq, Repr

/-- The text of a misuse. -/
def Misuse.message : Misuse → String
  | sublayerDestroyed sublayer => "sublayer '" ++ sublayer ++ "' was destroyed"
  | foreignBinding owner sublayer =>
    "symbolizer of sublayer '" ++ owner ++ "' added to sublayer '" ++ sublayer ++ "'"
  | bindingNotReady sublayer stage =>
    "symbolizer of sublayer '" ++ sublayer ++ "' is " ++ stage.name
  | bindingDestroyedTwice sublayer => "symbolizer of sublayer '" ++ sublayer ++ "' destroyed twice"
  | stated message => message

/-- Any fault of an operation on sublayers and bindings. -/
inductive Fault where
  | illegalState (cause : Misuse)
  | fill (cause : FillFault)
  deriving DecidableEq, Repr

/-- The text of a fault. -/
def Fault.message : Fault → String
  | illegalState cause => "illegal state: " ++ cause.message
  | fill cause => cause.message

end Portrayal
