import FlowTidy.Text.Basic

/-!
Colours for unified diffs on a terminal.
-/

namespace FlowTidy

/-- How a line of a diff is shown. -/
inductive Paint where
  | plain
  | bold
  | cyan
  | red
  | green
  deriving DecidableEq, Repr

/-- The paint of a line, by how it starts. -/
def Paint.ofLine (line : Text) : Paint :=
  if (Text.after? ['-', '-', '-', ' '] line).isSome ∨ (Text.after? ['+', '+', '+', ' '] line).isSome
  then .bold
  else
    match line with
    | '@' :: '@' :: _ => .cyan
    | '-' :: _ => .red
    | '+' :: _ => .green
    | _ => .plain

/-- A control sequence of a terminal. -/
def controlSequence (parameters : String) : Text := '\x1b' :: '[' :: parameters.toList ++ ['m']

/-- A line in its paint. Without colours the sequences of a colour stay, but name none. -/
def Paint.apply (paint : Paint) (colours : Bool) (line : Text) : Text :=
  let colour (code : String) : Text :=
    if colours then controlSequence ("38;5;" ++ code) ++ line ++ controlSequence "39"
    else controlSequence "" ++ line ++ controlSequence ""
  match paint with
  | .plain => line
  | .bold => controlSequence "1" ++ line ++ controlSequence "0"
  | .cyan => colour "14"
  | .red => colour "9"
  | .green => colour "10"

/-- A line without the newline that ends it, and without a carriage return before that. -/
def bareLine (line : Text) : Text :=
  match line.reverse with
  | '\n' :: '\r' :: r => r.reverse
  | '\n' :: r => r.reverse
  | _ => line

/-- A diff in colours. The last line ends with a newline exactly if it does in the diff. -/
def colorize (colours : Bool) (diff : Text) : Text :=
  let painted := (Text.wholeLines diff).map fun line =>
    (Paint.ofLine (bareLine line)).apply colours (bareLine line)
  let text := Text.joined ['\n'] painted
  if diff.getLast? = some '\n' then text ++ ['\n'] else text

end FlowTidy
