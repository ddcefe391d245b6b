/-
  PolicyBench — exported tables imported again.

  A table that was stored is the table that is read from the file, with every
  name, every absent value, and every value by kind and number.  Only NaN and
  the infinities are not kept: a table that holds one is stored, but the file is
  then refused, and never taken for another table.
-/
import PolicyBench.Proofs.Csv.Table
import PolicyBench.Proofs.FileSystem

namespace PolicyBench.Csv

theorem write_eq (fs : FileSystem) (table : Table) (output : Path) :
    write fs table output = ((fs.write output (encode table)).1.mapError
      (ExportError.ofWrite table output), (fs.write output (encode table)).2) := rfl

theorem write_eq_ok_iff {fs : FileSystem} {table : Table} {output : Path} :
    (write fs table output).1 = .ok () ↔ (fs.write output (encode table)).1 = .ok () := by
  rw [write_eq]
  exact mapError_eq_ok_iff

/-- A stored table is what its file says. -/
theorem read_write {fs : FileSystem} {output : Path} (h : fs.TakesFile output) (table : Table) :
    (write fs table output).1 = .ok () ∧
      read (write fs table output).2 output = decode (encode table) := by
  obtain ⟨hwrite, hread⟩ := FileSystem.read_write h (encode table)
  refine ⟨write_eq_ok_iff.2 hwrite, ?_⟩
  rw [write_eq, read, hread]

/-- **A stored table is read back exactly if all its values are finite**, and
    otherwise the file is refused. -/
theorem read_write_eq_ok_iff (fs : FileSystem) (table : Table) {output : Path}
    (h : fs.TakesFile output) :
    (write fs table output).1 = .ok () ∧
      (∀ t, read (write fs table output).2 output = .ok t ↔ table.AllFinite ∧ t = table) ∧
      (¬ table.AllFinite → ∃ problem, read (write fs table output).2 output = .error problem) := by
  obtain ⟨hwrite, hread⟩ := read_write h table
  rw [hread]
  refine ⟨hwrite, fun t => decode_encode_eq_ok_iff, fun hinfinite => ?_⟩
  rw [exists_eq_error_iff]
  intro t ht
  exact hinfinite (decode_encode_eq_ok_iff.1 ht).1

/-- A policy without a name, a column named like the heading of the policies, a
    name with separators that heads two columns, absent values, and the negative
    zero. -/
theorem read_write_awkward :
    let row : Row :=
      ⟨"", ⟨[("a,\"b\"\r\n", .measure (.zero true)), ("policy", .count 7)], by decide⟩⟩
    let bare : Row := ⟨"x", .empty⟩
    let columns := ["policy", "a,\"b\"\r\n", "a,\"b\"\r\n"]
    ∃ table : Table, table.columns = columns ∧ table.rows = [row, bare] ∧
      FileSystem.fresh.TakesFile ⟨"out.csv"⟩ ∧
      read (write .fresh table ⟨"out.csv"⟩).2 ⟨"out.csv"⟩ = .ok table := by
  intro row bare columns
  have htakes := FileSystem.takesFile_fresh_out
  refine ⟨⟨columns, [row, bare], by decide, by decide⟩, rfl, rfl, htakes, ?_⟩
  refine ((read_write_eq_ok_iff .fresh _ htakes).2.1 _).2 ⟨?_, rfl⟩
  intro r hr
  simp only [List.mem_cons, List.not_mem_nil, or_false] at hr
  rcases hr with rfl | rfl
  · intro e he
    simp only [row, List.mem_cons, List.not_mem_nil, or_false] at he
    rcases he with rfl | rfl <;> rfl
  · intro e he
    exact absurd he List.not_mem_nil

end PolicyBench.Csv
