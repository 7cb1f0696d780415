/-
Sound styled text.

How tags are read is up to whoever displays styled text.  `Markup.IsSound` is what messages rely
on: a text without brackets is accepted, and so is one whose styles are all closed again, also with
an escaped text in it.  Tags as this library reads them are sound (`Markup.isSound_standard`).
-/
import FuzzSynth.Proofs.Style.Tagged

namespace FuzzSynth

open FuzzSynth.Style

namespace Markup

/-- The styles that messages use. -/
def styles : List String :=
  ["bold", "code", "cyan", "path", "yellow"]

/-- A text between the tags of a style. -/
def tagged (style text : String) : String :=
  "[" ++ style ++ "]" ++ text ++ "[/" ++ style ++ "]"

/-- A text that is put together of plain texts, some of them between the tags of a style. -/
inductive IsClosed : String → Prop
  | plain {s : String} (hopen : '[' ∉ s.toList) (hslash : '\\' ∉ s.toList) : IsClosed s
  | tagged {style front text back : String} (hstyle : style ∈ styles) (hfront : IsClosed front)
      (hopen : '[' ∉ text.toList) (hslash : '\\' ∉ text.toList) (hback : IsClosed back) :
      IsClosed (front ++ tagged style text ++ back)

/-- What messages rely on. -/
structure IsSound (markup : Markup) : Prop where
  plain {s : String} (hopen : '[' ∉ s.toList) : markup.isFaulty s = false
  closed {s : String} (hs : IsClosed s) : markup.isFaulty s = false
  /-- An escaped text has no tags, and none begins in it. -/
  escaped {front back : String} (hfront : IsClosed front) (hopen : '[' ∉ back.toList)
    (hclose : ']' ∉ back.toList) (s : String) :
    markup.isFaulty (front ++ markup.escape s ++ back) = false
  styled {style front back : String} (hstyle : style ∈ styles) (hfront : IsClosed front)
    (hopen : '[' ∉ back.toList) (s : String) :
    markup.isFaulty (front ++ tagged style (markup.escape s) ++ back) = false

theorem IsSound.escaped_alone {markup : Markup} (h : markup.IsSound) (s : String) :
    markup.isFaulty (markup.escape s) = false := by
  have hempty : IsClosed "" := .plain (by decide) (by decide)
  have halone := h.escaped hempty (by decide : '[' ∉ "".toList) (by decide) s
  rwa [String.empty_append, String.append_empty] at halone

/-! ## Tags as they are read here -/

theorem isStyleName_of_mem_styles : ∀ style ∈ styles, IsStyleName style.toList := by
  simp only [styles, List.forall_mem_cons]
  exact ⟨⟨by decide, by decide, rfl⟩, ⟨by decide, by decide, rfl⟩, ⟨by decide, by decide, rfl⟩,
    ⟨by decide, by decide, rfl⟩, ⟨by decide, by decide, rfl⟩, by simp⟩

theorem toList_tagged (style text : String) (rest : List Char) :
    (tagged style text).toList ++ rest = '[' :: (style.toList ++ ']' ::
      (text.toList ++ '[' :: ('/' :: style.toList ++ ']' :: rest))) := by
  simp [tagged]

/-- What follows a closed text is read with the same styles open as before it. -/
theorem IsClosed.reads {s : String} (h : IsClosed s) {rest : List Char}
    (hrest : ∀ opened, Reads 0 opened rest) (opened : List OpenTag) :
    Reads 0 opened (s.toList ++ rest) := by
  induction h generalizing rest opened with
  | plain hopen hslash => exact Reads.plain hopen hslash (hrest opened)
  | tagged hstyle _ hopen hslash _ ihfront ihback =>
      rw [String.toList_append, String.toList_append, List.append_assoc, List.append_assoc]
      refine ihfront (fun outer => ?_) opened
      have hname := isStyleName_of_mem_styles _ hstyle
      rw [toList_tagged]
      exact Reads.opening hname (Reads.plain hopen hslash
        (Reads.closing hname (ihback hrest _) (ihback hrest _) 0))

theorem isFaulty_standard_of_reads {s : String} (h : Reads 0 [] s.toList) :
    standard.isFaulty s = false := by
  show (tagFault? s).isSome = false
  rw [tagFault?_eq_none_of_reads h]
  rfl

/-- Styled text whose tags are read by the rules of this library is sound. -/
theorem isSound_standard : standard.IsSound := by
  constructor
  case plain =>
    intro s hopen
    exact isFaulty_standard_of_reads (Reads.of_not_mem hopen)
  case closed =>
    intro s hs
    have hreads := hs.reads (fun _ => Reads.of_not_mem List.not_mem_nil) []
    exact isFaulty_standard_of_reads (by simpa using hreads)
  case escaped =>
    intro front back hfront hopen hclose s
    have hreads := hfront.reads (fun _ => Reads.escaped s (closingDistance?_eq_none hclose)
      fun _ => Reads.of_not_mem hopen) []
    exact isFaulty_standard_of_reads (by simpa [standard] using hreads)
  case styled =>
    intro style front back hstyle hfront hopen s
    have hname := isStyleName_of_mem_styles style hstyle
    have hreads := hfront.reads (fun _ => Reads.styled hname s fun _ => Reads.of_not_mem hopen) []
    refine isFaulty_standard_of_reads ?_
    rw [String.toList_append, String.toList_append, List.append_assoc, toList_tagged]
    exact hreads

end Markup
end FuzzSynth
