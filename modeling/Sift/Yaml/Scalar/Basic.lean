import Sift.Yaml.Mark

/-!
# Scalars

A scalar is a text in one of several styles. In plain and quoted scalars a gap between words may
hold line breaks: a single line feed then stands for a space, and of more the first is dropped.
-/

namespace Sift.Yaml

/-- How a scalar is written, as far as its meaning depends on it. -/
inductive Style where
  | plain
  | quoted
  /-- A block whose line breaks are kept. -/
  | literal
  /-- A block whose lines are joined. -/
  | folded
  deriving DecidableEq, Repr

/-- The characters that line breaks within a scalar stand for. -/
def foldBreaks : List Char → List Char
  | ['\n'] => [' ']
  | '\n' :: more => more
  | all => all

def joint (gap : List Mark) : List Char :=
  if gap.any Mark.isBreak then foldBreaks (breaks gap) else chars gap

end Sift.Yaml
