import ListenDeck.Markup.Basic

/-!
# Icons

The drawings of buttons and cards, on a square of 24 units. They take the colour of the text around
them.

* `Icon`: the drawings.
* `Icon.draw`: a drawing with a class.
-/

namespace ListenDeck

/-- A drawing. -/
inductive Icon where
  | play
  | equalizer
  | heart (filled : Bool)
  | brokenHeart (filled : Bool)
  | pin
  | share
  | trash
  | clock
  | playlist
  | settings
  | chevronLeft
  | chevronRight
  | cross
  | loader
  deriving DecidableEq, Repr, Inhabited

namespace Icon

variable {μ : Type}

/-- A shape with its measures. -/
def shape (tag : String) (measures : List (String × String)) : Markup μ :=
  .element tag (measures.map fun m => .text m.1 m.2) []

/-- A shape along a path. -/
def path (d : String) : Markup μ := shape "path" [("d", d)]

/-- A shape of straight lines. -/
def polyline (points : String) : Markup μ := shape "polyline" [("points", points)]

/-- A straight line. -/
def line (x1 y1 x2 y2 : String) : Markup μ :=
  shape "line" [("x1", x1), ("y1", y1), ("x2", x2), ("y2", y2)]

/-- A circle. -/
def circle (x y r : String) : Markup μ := shape "circle" [("cx", x), ("cy", y), ("r", r)]

/-- A rectangle. -/
def rectangle (x y width height : String) : Markup μ :=
  shape "rect" [("x", x), ("y", y), ("width", width), ("height", height)]

/-- The outline of a heart. -/
def heartPath : String :=
  "M20.84 4.61a5.5 5.5 0 0 0-7.78 0L12 5.67l-1.06-1.06a5.5 5.5 0 0 0-7.78 7.78l1.06 1.06L12 " ++
    "21.23l7.78-7.78 1.06-1.06a5.5 5.5 0 0 0 0-7.78z"

/-- The colour of the text around a drawing. -/
def currentColor : String := "currentColor"

/-- What the shapes of a drawing are filled with. -/
def fill : Icon → String
  | .play => currentColor
  | .equalizer => currentColor
  | .heart true => currentColor
  | .brokenHeart true => currentColor
  | _ => "none"

/-- The drawing has outlines. -/
def isOutlined : Icon → Bool
  | .play => false
  | .equalizer => false
  | _ => true

/-- The shapes of a drawing. -/
def shapes : Icon → List (Markup μ)
  | .play => [shape "polygon" [("points", "5 3 19 12 5 21 5 3")]]
  | .equalizer =>
    [rectangle "4" "10" "3" "10", rectangle "10.5" "4" "3" "16", rectangle "17" "13" "3" "7"]
  | .heart _ => [path heartPath]
  | .brokenHeart _ =>
    [path heartPath,
      shape "polyline" [("points", "12 5.67 10 10 14 13 12 18"), ("fill", "none")]]
  | .pin =>
    [path "M12 17v5",
      path <| "M9 10.76V6h6v4.76a2 2 0 0 0 1.11 1.79l1.78.9A2 2 0 0 1 19 15.24V17H5v-1.76" ++
        "a2 2 0 0 1 1.11-1.79l1.78-.9A2 2 0 0 0 9 10.76z",
      path "M8 2h8"]
  | .share =>
    [circle "18" "5" "3", circle "6" "12" "3", circle "18" "19" "3",
      line "8.59" "13.51" "15.42" "17.49", line "15.41" "6.51" "8.59" "10.49"]
  | .trash =>
    [polyline "3 6 5 6 21 6",
      path "M19 6v14a2 2 0 0 1-2 2H7a2 2 0 0 1-2-2V6m3 0V4a2 2 0 0 1 2-2h4a2 2 0 0 1 2 2v2"]
  | .clock => [circle "12" "12" "10", polyline "12 6 12 12 16 14"]
  | .playlist =>
    [path "M21 15V6", path "M18.5 18a2.5 2.5 0 1 0 0-5 2.5 2.5 0 0 0 0 5Z", path "M12 12H3",
      path "M16 6H3", path "M12 18H3"]
  | .settings =>
    [circle "12" "12" "3",
      path <| "M12 1v4M12 19v4M4.22 4.22l2.83 2.83M16.95 16.95l2.83 2.83M1 12h4M19 12h4M4.22 " ++
        "19.78l2.83-2.83M16.95 7.05l2.83-2.83"]
  | .chevronLeft => [polyline "15 18 9 12 15 6"]
  | .chevronRight => [polyline "9 18 15 12 9 6"]
  | .cross => [line "18" "6" "6" "18", line "6" "6" "18" "18"]
  | .loader =>
    [shape "circle" [("cx", "12"), ("cy", "12"), ("r", "10"), ("opacity", "0.25")],
      shape "path" [("d", "M12 2a10 10 0 0 1 10 10"), ("opacity", "0.75")]]

/-- The class of a drawing; the loader turns round. -/
def styleOf (i : Icon) (style : String) : String :=
  if i = .loader then style ++ " animate-spin" else style

/-- A drawing with a class. -/
def draw (i : Icon) (style : String) : Markup μ :=
  .element "svg"
    ([.text "class" (i.styleOf style), .text "viewBox" "0 0 24 24", .text "fill" i.fill] ++
      if i.isOutlined then [.text "stroke" currentColor, .text "stroke-width" "2"] else [])
    i.shapes

end Icon

end ListenDeck
