import C4Model.Text.Lines

/-! Coloring of log lines and diagnostics. A paint puts its codes around a text. Codes inside that end
one of its own styles begin it again, and no style goes over the end of a line. -/

namespace C4Model.Console

/-- The control sequence that selects a graphic rendition. -/
def rendition (code : Nat) : String :=
  "\x1b[" ++ toString code ++ "m"

/-- A style by the codes that begin and end it. -/
structure Shade where
  on : Nat
  off : Nat

/-- Shades applied together. -/
abbrev Paint := List Shade

namespace Paint

def red : Paint := [⟨31, 39⟩]
def green : Paint := [⟨32, 39⟩]
def yellow : Paint := [⟨33, 39⟩]
def blue : Paint := [⟨34, 39⟩]
def gray : Paint := [⟨90, 39⟩]
def brightRed : Paint := [⟨91, 39⟩]
def dimRed : Paint := [⟨2, 22⟩, ⟨31, 39⟩]

def opening (paint : Paint) : String :=
  String.join (paint.map fun shade => rendition shade.on)

def closing (paint : Paint) : String :=
  String.join (paint.map fun shade => rendition shade.off)

/-- Puts `addition` after each occurrence of `marker`, which is not empty. The number bounds the steps
through the text. -/
def insertAfter (marker addition : List Char) : Nat → List Char → List Char
  | 0, text => text
  | _ + 1, [] => []
  | bound + 1, c :: rest =>
      if marker.isPrefixOf (c :: rest) then
        marker ++ addition ++ insertAfter marker addition bound ((c :: rest).drop marker.length)
      else c :: insertAfter marker addition bound rest

/-- Begins a style anew wherever the text ends it. -/
def reopen (text : String) (shade : Shade) : String :=
  String.ofList (insertAfter (rendition shade.off).toList (rendition shade.on).toList
    text.length text.toList)

/-- Ends the styles before each end of a line and begins them again after it. -/
def aroundLineEnds (paint : Paint) : List Char → List Char
  | '\r' :: '\n' :: rest =>
      paint.closing.toList ++ '\r' :: '\n' :: paint.opening.toList ++ aroundLineEnds paint rest
  | '\n' :: rest => paint.closing.toList ++ '\n' :: paint.opening.toList ++ aroundLineEnds paint rest
  | c :: rest => c :: aroundLineEnds paint rest
  | [] => []

def apply (paint : Paint) (text : String) : String :=
  let reopened := paint.foldl reopen text
  paint.opening ++ String.ofList (paint.aroundLineEnds reopened.toList) ++ paint.closing

end Paint

end C4Model.Console
