import HouseStyle.Fixture
import HouseStyle.Proofs.Text.Pieces

/-!
# The log and the chunks it is written in

However a text is cut into chunks, the log ends up with the same lines. What holds after every round of taking a line
off is that the lines, each with its newline, and the unfinished text are what was written (`Holds`). So it holds after
every chunk (`Holds.write`) and after all of them (`Holds.writeAll`), and since no newline is left in the unfinished text
(`newline_not_mem_drain`), the lines and the unfinished text are the pieces of what was written (`Holds.pieces`).

Hence **the log shows the pieces of the whole text, whatever the chunks** (`lines_of_chunks`).
-/

namespace HouseStyle.Fixture

open Text (byte pieces unlines)

namespace Log

variable {log : Log} {written pending : Text} {lines : List Text}

/-- The log after several chunks, one after the other. -/
def writeAll (log : Log) (chunks : List Text) : Log := chunks.foldl (fun log chunk => (log.write chunk).2) log

/-- The lines of the log, each with its newline, and its unfinished text are what was written. -/
structure Holds (log : Log) (written : Text) : Prop where
  written_eq : written = unlines log.lines ++ log.pending
  noNewline : ∀ line ∈ log.lines, byte '\n' ∉ line

theorem holds_new : Holds {} [] := ⟨rfl, fun _ h => by cases h⟩

/-- **One round**: the first line of the unfinished text is taken off, with its newline. -/
theorem Holds.takeLine {i : Nat} (h : Holds { lines, pending } written) (hi : pending.idxOf? (byte '\n') = some i) :
    Holds { lines := lines ++ [pending.take i], pending := pending.drop (i + 1) } written := by
  obtain ⟨hlt, hnewline, hbefore⟩ := List.idxOf?_eq_some_iff.mp hi
  have hcut : pending = pending.take i ++ byte '\n' :: pending.drop (i + 1) :=
    Text.eq_take_append_cons_drop (by rw [List.getElem?_eq_getElem hlt, hnewline])
  refine ⟨?_, ?_⟩
  · rw [h.written_eq]
    conv_lhs => rw [hcut]
    simp [unlines]
  · intro line hline
    rcases List.mem_append.mp hline with hline | hline
    · exact h.noNewline line hline
    · obtain rfl := List.mem_singleton.mp hline
      intro hmem
      obtain ⟨j, hj, hbyte⟩ := List.mem_take_iff_getElem.mp hmem
      exact hbefore j (by omega) hbyte

/-- **All rounds** of a chunk. -/
theorem Holds.drain (h : Holds { lines, pending } written) : Holds (drain lines pending) written := by
  fun_induction Log.drain lines pending with
  | case1 => exact h
  | case2 lines pending i hi ih => exact ih (h.takeLine hi)

/-- The rounds go on until no newline is left. -/
theorem newline_not_mem_drain (lines : List Text) (pending : Text) : byte '\n' ∉ (drain lines pending).pending := by
  fun_induction Log.drain lines pending with
  | case1 lines pending hnone => exact List.idxOf?_eq_none_iff.mp hnone
  | case2 lines pending i hi ih => exact ih

/-- **One chunk.** -/
theorem Holds.write (h : Holds log written) (chunk : Text) : Holds (log.write chunk).2 (written ++ chunk) := by
  refine Holds.drain ⟨?_, h.noNewline⟩
  rw [h.written_eq, List.append_assoc]

/-- **All chunks.** -/
theorem Holds.writeAll (h : Holds log written) (hpending : byte '\n' ∉ log.pending) (chunks : List Text) :
    Holds (log.writeAll chunks) (written ++ chunks.flatten) ∧ byte '\n' ∉ (log.writeAll chunks).pending := by
  induction chunks generalizing log written with
  | nil => exact ⟨by simpa [Log.writeAll] using h, hpending⟩
  | cons chunk chunks ih =>
    have hrest := ih (h.write chunk) (newline_not_mem_drain _ _)
    rwa [List.append_assoc] at hrest

/-- Without a newline in its unfinished text, the log shows the pieces of what was written. -/
theorem Holds.pieces (h : Holds log written) (hpending : byte '\n' ∉ log.pending) :
    pieces '\n' written = log.lines ++ [log.pending] := by
  rw [h.written_eq, Text.pieces_unlines h.noNewline hpending]

/-- **The log does not depend on how its text is cut into chunks.** After any chunks and a flush its lines are the pieces
between the newlines of the whole text, without the last piece if that is empty. Each chunk is taken whole, and leaves
no newline in the unfinished text. -/
theorem lines_of_chunks (chunks : List Text) :
    let ps := pieces '\n' chunks.flatten
    (writeAll {} chunks).flush.lines = (if ps.getLast? = some [] then ps.dropLast else ps) ∧
      ∀ (log : Log) (chunk : Text),
        (log.write chunk).1 = chunk.length ∧ byte '\n' ∉ (log.write chunk).2.pending := by
  intro ps
  obtain ⟨hholds, hpending⟩ := holds_new.writeAll List.not_mem_nil chunks
  have hps : ps = (writeAll {} chunks).lines ++ [(writeAll {} chunks).pending] := hholds.pieces hpending
  refine ⟨?_, fun log chunk => ⟨rfl, newline_not_mem_drain _ _⟩⟩
  rw [hps, List.getLast?_concat, List.dropLast_concat, flush]
  by_cases hempty : (writeAll {} chunks).pending = []
  · rw [hempty, if_pos rfl]
    rfl
  · rw [if_neg (by simpa using hempty), if_neg (by simpa using hempty)]

end Log

end HouseStyle.Fixture
