/-
Styled text.

Notices, the cells of tables and some lines are styled text: tags in brackets switch styles
on and off, and a text from outside has to be escaped before it is put into one.  Who
displays styled text decides how that is done and which texts are refused, so both are
given to whatever writes such texts.
-/
namespace FuzzSynth

/-- How styled text is written and read. -/
structure Markup where
  /-- A plain text, made safe to stand in styled text. -/
  escape : String → String
  /-- Whether a text is refused for its tags. -/
  isFaulty : String → Bool

end FuzzSynth
