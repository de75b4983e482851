import BareStrings.Markup.Reading
import BareStrings.Proofs.Markup.Faithful
import BareStrings.Proofs.Text.LineTable

namespace BareStrings.Markup

open BareStrings.Text

/-- Unfinished text is what stands in the source between its place and the place reached. What has come
behind that place makes no difference. -/
theorem Builder.TrueTo.slice?_pending {builder : Builder} {source : List Char} (htrue : builder.TrueTo source)
    {start : Position} {raw : List Char} (hpending : builder.pending = some (start, raw)) (after : List Char) :
    (LineTable.ofSource (source ++ after)).slice? start builder.position = some raw := by
  obtain ⟨before, hsource, hstart⟩ := htrue.pending_stands start raw hpending
  rw [htrue.position_eq, hstart, hsource]
  exact LineTable.slice?_advance before raw after

namespace Reading

/-- Lines are entered whatever is read, and a source is read whatever lines there are. -/
theorem feeds_eq (chunks : List (List Char)) (reading : Reading) :
    chunks.foldlM feed reading = (chunks.foldlM Reader.feed reading.reader).map fun reader =>
      ⟨chunks.foldl LineTable.extend reading.lines, reader⟩ := by
  induction chunks generalizing reading with
  | nil => rfl
  | cons chunk chunks ih =>
    rw [List.foldlM_cons, List.foldlM_cons, feed]
    cases reading.reader.feed chunk with
    | error error => rfl
    | ok reader => exact ih ⟨reading.lines.extend chunk, reader⟩

/-- A reading that is fed chunks counts the lines of all of them, and reads them as a reader does. -/
private theorem of_feeds {chunks : List (List Char)} {reading : Reading}
    (hfeeds : chunks.foldlM feed .empty = .ok reading) :
    reading.lines = .ofSource chunks.flatten ∧ chunks.foldlM Reader.feed .empty = .ok reading.reader := by
  rw [feeds_eq] at hfeeds
  cases hreader : chunks.foldlM Reader.feed .empty with
  | error error =>
    rw [empty, hreader] at hfeeds
    cases hfeeds
  | ok reader =>
    rw [empty, hreader] at hfeeds
    obtain rfl := Except.ok.inj hfeeds
    exact ⟨LineTable.foldl_extend [] chunks, rfl⟩

/-- Places and offsets of a source that has come in any chunks answer to each other. The place behind any
front of the source has the length of this front as its offset. The place reached has the offset that is the
length of the source less that of the text which is still unread, and between the beginning of unfinished
text and the place reached the source holds just this text. Places themselves are made for it: reading on
from where a text leads is reading both texts, and the number of line feeds and what stands behind the last
one tell at once where reading leads. -/
theorem offset?_of_feeds {chunks : List (List Char)} {reading : Reading}
    (hfeeds : chunks.foldlM feed .empty = .ok reading) :
    chunks.foldlM Reader.feed .empty = .ok reading.reader ∧ reading.lines.source = chunks.flatten ∧
      (∀ k ≤ chunks.flatten.length,
        reading.lines.offset? (Position.start.advance (chunks.flatten.take k)) = some k) ∧
      reading.reader.unread <:+ chunks.flatten ∧
      reading.lines.offset? reading.position = some (chunks.flatten.length - reading.reader.unread.length) ∧
      reading.pendingText? = reading.reader.builder.pending.map (·.2) ∧
      ∀ (position : Position) (first second : List Char),
        position.advance (first ++ second) = (position.advance first).advance second ∧
          position.advance first = position.jump first := by
  obtain ⟨hlines, hreader⟩ := of_feeds hfeeds
  have hempty : Reader.empty.TrueTo [] := ⟨[], rfl, .empty⟩
  obtain ⟨read, hsource, htrue⟩ := hempty.feeds hreader
  rw [List.nil_append] at hsource
  refine ⟨hreader, by rw [hlines]; rfl, fun k hk => ?_, ⟨read, hsource.symm⟩, ?_, ?_,
    fun position first second => ?_⟩
  · have hoffset := LineTable.offset?_advance (chunks.flatten.take k) (chunks.flatten.drop k)
    rwa [List.take_append_drop, List.length_take, Nat.min_eq_left hk, ← hlines] at hoffset
  · have hoffset := LineTable.offset?_advance read reading.reader.unread
    rw [hlines, position, htrue.position_eq, hsource, hoffset, List.length_append, Nat.add_sub_cancel]
  · rw [pendingText?, hlines, position]
    cases hpending : reading.reader.builder.pending with
    | none => rfl
    | some text =>
      rw [hsource]
      exact htrue.slice?_pending hpending reading.reader.unread
  · exact ⟨Position.advance_append position first second, Position.advance_eq_jump position first⟩

/-- Two chunks, of which the first ends in a line feed and the second one in an unfinished tag. -/
theorem offset?_of_feeds_cut_lines :
    let chunks := ["a\n".toList, "\n\x7b<b\n c".toList]
    ∃ reading, chunks.foldlM feed .empty = .ok reading ∧ reading.position = ⟨3, 1⟩ ∧
      reading.lines.offset? ⟨3, 1⟩ = some 4 ∧ reading.pendingText? = some "a\n\n\x7b".toList ∧
      Position.start.advance (chunks.flatten.take 8) = ⟨4, 1⟩ ∧ reading.lines.offset? ⟨4, 1⟩ = some 8 := by
  intro chunks
  have hread : (chunks.foldlM feed .empty).toOption.map
      (fun reading => (reading.position, reading.reader.unread.length, reading.reader.builder.pending.map (·.2))) =
      some (⟨3, 1⟩, 5, some "a\n\n\x7b".toList) := by
    decide +kernel
  obtain ⟨reading, hfeeds, hvalues⟩ := exists_of_toOption_map hread
  obtain ⟨hposition, hunread, hpending⟩ : reading.position = ⟨3, 1⟩ ∧ reading.reader.unread.length = 5 ∧
      reading.reader.builder.pending.map (·.2) = some "a\n\n\x7b".toList := by
    simpa using hvalues
  obtain ⟨_, _, hoffset, _, hreached, htext, _⟩ := offset?_of_feeds hfeeds
  rw [hposition, hunread] at hreached
  exact ⟨reading, hfeeds, hposition, hreached, htext.trans hpending, by decide, hoffset 8 (by decide)⟩

end Reading

end BareStrings.Markup
