import LoadChart.Resource.Basic
import LoadChart.Screen.Box

/-!
# Shapes

What a painter draws: boxes, lines and texts.  Colors have their parts multiplied by the opacity.
-/

namespace LoadChart

/-- A color whose parts are multiplied by its opacity. -/
structure Color where
  red : UInt8
  green : UInt8
  blue : UInt8
  alpha : UInt8
deriving DecidableEq

namespace Color

def solid (red green blue : UInt8) : Color := ⟨red, green, blue, 255⟩

def shade (alpha : UInt8) : Color := ⟨0, 0, 0, alpha⟩

def transparent : Color := ⟨0, 0, 0, 0⟩

def white : Color := solid 255 255 255

/-- One part of a color times a factor, to the nearest byte. -/
def fadePart (factor : Float32) (part : UInt8) : UInt8 :=
  (Float32.floor (Float32.ofNat part.toNat * factor + 0.5)).toUInt8

def fade (color : Color) (factor : Float32) : Color :=
  ⟨fadePart factor color.red, fadePart factor color.green, fadePart factor color.blue,
    fadePart factor color.alpha⟩

def backgroundDark : Color := solid 22 24 31
def backgroundPanel : Color := solid 29 31 40
def backgroundHeader : Color := solid 35 38 50
def backgroundLane : Color := ⟨255, 255, 255, 5⟩
def backgroundSelected : Color := ⟨70, 130, 210, 40⟩
def backgroundWeekend : Color := ⟨0, 0, 0, 40⟩
def backgroundOverallocated : Color := ⟨70, 18, 18, 70⟩
def border : Color := solid 50 53 66
def textPrimary : Color := solid 228 231 240
def textSecondary : Color := solid 150 156 176
def textDim : Color := solid 98 104 122
def textOnBar : Color := white
def accent : Color := solid 74 136 220
def gridLine : Color := solid 42 45 58
def critical : Color := solid 226 74 74
def overallocated : Color := solid 232 84 64
def warning : Color := solid 240 176 48
def healthy : Color := solid 72 176 104

def ofCategory : Category → Color
  | .labor => solid 66 133 244
  | .equipment => solid 0 172 193
  | .material => solid 171 71 188

/-- The color of a percentage: green up to 80, amber up to 100, red above, none for nothing. -/
def ofPercent (percent : Float) : Color :=
  if 100 < percent then overallocated
  else if 80 < percent then warning
  else if 0 < percent then healthy
  else gridLine

/-- Eight hexadecimal digits: red, green, blue and opacity. -/
def text (color : Color) : String :=
  String.ofList
    (hexDigits 2 color.red.toNat ++ hexDigits 2 color.green.toNat ++ hexDigits 2 color.blue.toNat
      ++ hexDigits 2 color.alpha.toNat)

end Color

/-- How an edge or a line is drawn. -/
structure Stroke where
  width : Float32
  color : Color

namespace Stroke

/-- An edge that is not drawn. -/
def none : Stroke := ⟨0, .transparent⟩

end Stroke

/-- How far each corner of a box is rounded. -/
structure Corners where
  topLeft : Float32
  topRight : Float32
  bottomLeft : Float32
  bottomRight : Float32

namespace Corners

def same (radius : Float32) : Corners := ⟨radius, radius, radius, radius⟩

def square : Corners := same 0

end Corners

/-- One thing that a painter draws. -/
inductive Shape where
  | box (box : Box) (corners : Corners) (fill : Color) (stroke : Stroke)
  | line (start finish : Point) (stroke : Stroke)
  | text (text : String) (color : Color) (box : Box)

namespace Shape

def filled (box : Box) (corners : Corners) (fill : Color) : Shape := .box box corners fill .none

def outline (box : Box) (corners : Corners) (stroke : Stroke) : Shape :=
  .box box corners .transparent stroke

end Shape

end LoadChart
