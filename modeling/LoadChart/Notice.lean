/-!
# Notices

Short messages shown for a while, the newest at the end.  At most five are kept, and each
disappears five seconds after it was first drawn.  Any type of seconds serves as the clock.
-/

namespace LoadChart

inductive NoticeLevel where
  | info
  | error
deriving DecidableEq

/-- One message, and when it was first drawn. -/
structure Notice (τ : Type) where
  level : NoticeLevel
  text : String
  shownAt : Option τ

/-- The messages on the screen. -/
structure Notices (τ : Type) where
  items : List (Notice τ)

namespace Notices

variable {τ : Type}

def empty : Notices τ := ⟨[]⟩

def capacity : Nat := 5

/-- Adds a message; the oldest goes if there are too many. -/
def push (notices : Notices τ) (level : NoticeLevel) (text : String) : Notices τ :=
  let items := notices.items ++ [⟨level, text, none⟩]
  ⟨if capacity < items.length then items.drop 1 else items⟩

def info (notices : Notices τ) (text : String) : Notices τ := notices.push .info text

def error (notices : Notices τ) (text : String) : Notices τ := notices.push .error text

def stamp (now : τ) (notice : Notice τ) : Notice τ :=
  { notice with shownAt := some (notice.shownAt.getD now) }

variable [Sub τ] [LT τ] [DecidableLT τ] [OfNat τ 5]

def lifetime : τ := 5

def isFresh (now : τ) (notice : Notice τ) : Bool :=
  match notice.shownAt with
  | some shownAt => now - shownAt < lifetime
  | none => true

def expire (notices : Notices τ) (now : τ) : Notices τ :=
  ⟨(notices.items.map (stamp now)).filter (isFresh now)⟩

end Notices

end LoadChart
