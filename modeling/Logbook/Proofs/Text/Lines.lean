import Logbook.Proofs.Text.Utf8
import Logbook.Text.Lines

/-! The lines of bytes. Every sequence of bytes is the pieces between its line feeds, and its lines
are the segments of these. No byte of a character is a line feed or a carriage return unless the
character is, so texts written line by line come back. -/

namespace Logbook.Text

/-! ### Pieces -/

theorem exists_framing (bytes : List UInt8) : ∃ f : Framing, f.bytes = bytes := by
  induction bytes with
  | nil => exact ⟨⟨[], [], by simp, by simp⟩, rfl⟩
  | cons b bytes ih =>
    obtain ⟨⟨ended, last, hended, hlast⟩, rfl⟩ := ih
    by_cases hb : b = lineFeed
    · subst hb
      exact ⟨⟨[] :: ended, last, by simpa using hended, hlast⟩, by simp [Framing.bytes]⟩
    · cases ended with
      | nil =>
        exact ⟨⟨[], b :: last, by simp, by simp [Ne.symm hb, hlast]⟩, by simp [Framing.bytes]⟩
      | cons piece ended =>
        obtain ⟨hpiece, hended⟩ := List.forall_mem_cons.mp hended
        refine ⟨⟨(b :: piece) :: ended, last, ?_, hlast⟩, by simp [Framing.bytes]⟩
        exact List.forall_mem_cons.mpr ⟨by simp [Ne.symm hb, hpiece], hended⟩

theorem endLines_cons {piece : List UInt8} {pieces : List (List UInt8)} (h : pieces ≠ []) :
    endLines (piece :: pieces) = withoutReturn piece :: endLines pieces := by
  cases pieces with
  | nil => exact absurd rfl h
  | cons next pieces => rfl

theorem byteLines_append_cons {piece : List UInt8} (h : lineFeed ∉ piece) (rest : List UInt8) :
    byteLines (piece ++ lineFeed :: rest) = withoutReturn piece :: byteLines rest := by
  rw [byteLines, List.splitOn_append_cons_self, List.splitOn_eq_singleton h, List.singleton_append,
    endLines_cons (List.splitOn_ne_nil _ _), byteLines]

theorem byteLines_of_notMem {last : List UInt8} (h : lineFeed ∉ last) :
    byteLines last = if last = [] then [] else [last] := by
  rw [byteLines, List.splitOn_eq_singleton h, endLines]
  cases last <;> simp

/-- The lines are the segments of the pieces. -/
theorem byteLines_bytes (f : Framing) : byteLines f.bytes = f.segments := by
  obtain ⟨ended, last, hended, hlast⟩ := f
  simp only [Framing.bytes, Framing.segments]
  induction ended with
  | nil => exact byteLines_of_notMem hlast
  | cons piece ended ih =>
    obtain ⟨hpiece, hended⟩ := List.forall_mem_cons.mp hended
    rw [List.flatMap_cons, List.append_assoc, List.append_assoc, List.singleton_append,
      byteLines_append_cons hpiece, ih hended, List.map_cons, List.cons_append]

/-! ### Texts -/

theorem encode_append (s t : String) : Utf8.encode (s ++ t) = Utf8.encode s ++ Utf8.encode t := by
  simp [Utf8.encode_eq]

theorem notMem_encode {text : String} (h : '\n' ∉ text.toList) :
    lineFeed ∉ Utf8.encode text := by
  rw [Utf8.encode_eq]
  intro hmem
  obtain ⟨c, hc, hbyte⟩ := List.mem_flatMap.mp hmem
  obtain ⟨-, rfl⟩ := (Utf8.isForm_utf8EncodeChar c).ascii hbyte (by decide)
  exact h hc

theorem getLast?_encode {text : String} (h : text.toList.getLast? ≠ some '\r') :
    (Utf8.encode text).getLast? ≠ some carriageReturn := by
  rw [Utf8.encode_eq]
  intro hlast
  cases List.eq_nil_or_concat text.toList with
  | inl hnil => simp [hnil] at hlast
  | inr hconcat =>
    obtain ⟨start, c, hstart⟩ := hconcat
    rw [List.concat_eq_append] at hstart
    rw [hstart, List.flatMap_append, List.flatMap_singleton,
      List.getLast?_append_of_ne_nil _ String.utf8EncodeChar_ne_nil] at hlast
    obtain ⟨-, hc⟩ := (Utf8.isForm_utf8EncodeChar c).ascii (List.mem_of_getLast? hlast) (by decide)
    exact h (by rw [hstart, hc]; simp; rfl)

theorem withoutReturn_encode {text : String} (h : IsLine text) :
    withoutReturn (Utf8.encode text) = Utf8.encode text := by
  rw [withoutReturn, if_neg (getLast?_encode h.noReturn)]

theorem withoutReturn_append (line : List UInt8) :
    withoutReturn (line ++ [carriageReturn]) = line := by
  simp [withoutReturn]

theorem byteLines_encode_append {eol : String} (heol : eol = "\n" ∨ eol = "\r\n") {text : String}
    (h : IsLine text) (rest : List UInt8) :
    byteLines (Utf8.encode (text ++ eol) ++ rest) = Utf8.encode text :: byteLines rest := by
  have htext := notMem_encode h.noFeed
  cases heol with
  | inl heol =>
    have hend : Utf8.encode eol = [lineFeed] := by rw [heol]; rfl
    rw [encode_append, hend, List.append_assoc, List.singleton_append, byteLines_append_cons htext,
      withoutReturn_encode h]
  | inr heol =>
    have hend : Utf8.encode eol = [carriageReturn, lineFeed] := by rw [heol]; rfl
    have hpiece : lineFeed ∉ Utf8.encode text ++ [carriageReturn] := by
      simpa [htext] using show lineFeed ≠ carriageReturn by decide
    have hsplit : Utf8.encode text ++ [carriageReturn, lineFeed] ++ rest =
        (Utf8.encode text ++ [carriageReturn]) ++ lineFeed :: rest := by simp
    rw [encode_append, hend, hsplit, byteLines_append_cons hpiece, withoutReturn_append]

/-- Texts come back, whichever end of line stands behind each of them. -/
theorem lines_encode {eol : String} (heol : eol = "\n" ∨ eol = "\r\n") {texts : List String}
    (h : ∀ text ∈ texts, IsLine text) :
    lines (Utf8.encode (String.join (texts.map (· ++ eol)))) = texts.map some := by
  induction texts with
  | nil => rfl
  | cons text texts ih =>
    obtain ⟨htext, htexts⟩ := List.forall_mem_cons.mp h
    have hrest := ih htexts
    rw [lines] at hrest ⊢
    rw [List.map_cons, String.join_cons, encode_append, byteLines_encode_append heol htext,
      List.map_cons, hrest, Utf8.decode?_encode, List.map_cons]

end Logbook.Text
