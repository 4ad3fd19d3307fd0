import WalletNotify.Proofs.Text.Keyed
import WalletNotify.Toml.Document

/-!
# Tables of TOML documents

A key stands once in a table, wherever the table stands in the document. Main statement: all tables
of a document that is read have their keys in order (`each_of_read`).
-/

namespace WalletNotify.Toml

open Text (Keyed)
open Text.Keyed (Each Ordered)

/-! ## Values and places -/

/-- All tables in a value have their keys in order. -/
inductive Value.Tidy : Value → Prop where
  | text (s : String) : Tidy (.text s)
  | integer (i : Int) : Tidy (.integer i)
  | real (x : Decimal.Binary64) : Tidy (.real x)
  | flag (b : Bool) : Tidy (.flag b)
  | moment (written : String) : Tidy (.moment written)
  | array {items : List Value} (each : ∀ v ∈ items, Tidy v) : Tidy (.array items)
  | table {entries : Table} (ordered : Ordered entries) (each : ∀ e ∈ entries, Tidy e.2) :
      Tidy (.table entries)

/-- All tables at a place have their keys in order. -/
inductive Node.Tidy : Node → Prop where
  | value {v : Value} (tidy : v.Tidy) : Tidy (.value v)
  | table {origin : Origin} {entries : Keyed Node} (ordered : Ordered entries)
      (each : ∀ e ∈ entries, Tidy e.2) : Tidy (.table origin entries)
  | tables {latest : Keyed Node} {earlier : List (Keyed Node)} (ordered : Ordered latest)
      (each : ∀ e ∈ latest, Tidy e.2) (others : ∀ t ∈ earlier, Ordered t)
      (othersEach : ∀ t ∈ earlier, ∀ e ∈ t, Tidy e.2) : Tidy (.tables latest earlier)

/-- The entries of a tidy table are tidy. -/
lemma Value.Tidy.entries {entries : Table} (tidy : (Value.table entries).Tidy) :
    Each Value.Tidy entries := by
  cases tidy with
  | table ordered each => exact ⟨ordered, each⟩

/-- The value of a table that is built has the values of its nodes. -/
lemma tableValue_eq (entries : Keyed Node) :
    tableValue entries = entries.map fun e => (e.1, e.2.toValue) := by
  induction entries with
  | nil => rfl
  | cons e rest ih => rw [tableValue, ih, List.map_cons]

/-- The values of tables that are built are those of each of them. -/
lemma mem_tableValues {v : Value} {tables : List (Keyed Node)} :
    v ∈ tableValues tables ↔ ∃ t ∈ tables, v = .table (tableValue t) := by
  induction tables with
  | nil => simp [tableValues]
  | cons t rest ih =>
    simp only [tableValues, List.mem_append, ih, List.mem_singleton, List.exists_mem_cons_iff,
      or_comm]

/-- A table of places is tidy if the values of its places are. -/
lemma each_tableValue {entries : Keyed Node} (ordered : Ordered entries)
    (each : ∀ e ∈ entries, e.2.toValue.Tidy) : Each Value.Tidy (tableValue entries) := by
  rw [tableValue_eq]
  refine ⟨ordered.map _, ?_⟩
  intro e member
  obtain ⟨place, listed, rfl⟩ := List.mem_map.mp member
  exact each place listed

/-- A tidy node has a tidy value. -/
lemma Node.Tidy.toValue {node : Node} (tidy : node.Tidy) : node.toValue.Tidy := by
  induction tidy with
  | value tidy =>
    rw [Node.toValue]
    exact tidy
  | table ordered _ ih =>
    have each := each_tableValue ordered ih
    rw [Node.toValue]
    exact .table each.ordered each.each
  | tables ordered _ others _ ih ihOthers =>
    rw [Node.toValue]
    apply Value.Tidy.array
    intro v member
    rcases List.mem_append.mp member with earlier | latest
    · obtain ⟨t, listed, rfl⟩ := mem_tableValues.mp earlier
      have each := each_tableValue (others t listed) (ihOthers t listed)
      exact .table each.ordered each.each
    · cases List.mem_singleton.mp latest
      have each := each_tableValue ordered ih
      exact .table each.ordered each.each

/-- The values of tidy places are tidy. -/
lemma each_values {entries : Keyed Node} (tidy : Each Node.Tidy entries) :
    Each Value.Tidy (tableValue entries) :=
  each_tableValue tidy.ordered fun e member => (tidy.each e member).toValue

/-! ## Tables under construction -/

/-- A change that succeeds leaves a tidy table tidy. -/
def Change.KeepsTidy (change : Change) : Prop :=
  ∀ isDotted entries entries', Each Node.Tidy entries →
    change isDotted entries = .ok entries' → Each Node.Tidy entries'

/-- What keeps one table tidy keeps a document tidy, wherever the table stands in it. -/
lemma Change.KeepsTidy.within {change : Change} (keeps : change.KeepsTidy) (site : Site)
    (missing : Origin) (front path : List String) :
    Change.KeepsTidy (within site missing change front path) := by
  induction path generalizing front with
  | nil => exact keeps
  | cons key path ih =>
    intro isDotted entries entries' tidy done
    have place : ((Keyed.get? key entries).getD (.table missing [])).Tidy := by
      cases found : Keyed.get? key entries with
      | none => exact .table Text.Keyed.ordered_nil nofun
      | some node => exact tidy.get? found
    rw [Toml.within] at done
    generalize (Keyed.get? key entries).getD (.table missing []) = node at place done
    cases place with
    | value => cases done
    | tables ordered each others othersEach =>
      obtain ⟨latest', changed, made⟩ := bind_eq_ok.mp done
      cases made
      have kept := ih _ _ _ _ ⟨ordered, each⟩ changed
      exact tidy.put key (.tables kept.ordered kept.each others othersEach)
    | table ordered each =>
      simp only at done
      split_ifs at done
      obtain ⟨inner', changed, made⟩ := bind_eq_ok.mp done
      cases made
      have kept := ih _ _ _ _ ⟨ordered, each⟩ changed
      exact tidy.put key (.table kept.ordered kept.each)

/-- A tidy value that is entered keeps tables tidy. -/
lemma addEntry_keepsTidy {site : Site} {owner : Option (List String)} {path : List String}
    {key : String} {v : Value} (new : v.Tidy) :
    Change.KeepsTidy fun _ entries => addEntry site owner path key v entries := by
  intro isDotted entries entries' tidy done
  refine Change.KeepsTidy.within ?_ _ _ _ _ _ _ _ tidy done
  intro isDotted entries entries' tidy done
  simp only at done
  split_ifs at done
  split at done
  · cases done
  · cases done
    exact tidy.put key (.value new)

/-- A header that opens a table keeps the document tidy. -/
lemma openTable_tidy {path : List String} {key : String} {root root' : Keyed Node}
    (tidy : Each Node.Tidy root) (done : openTable path key root = .ok root') :
    Each Node.Tidy root' := by
  refine Change.KeepsTidy.within ?_ _ _ _ _ _ _ _ tidy done
  intro _ entries entries' tidy done
  simp only at done
  split at done
  · cases done
    exact tidy.put key (.table Text.Keyed.ordered_nil nofun)
  · cases done
    cases tidy.get? ‹_› with
    | table ordered each => exact tidy.put key (.table ordered each)
  · cases done

/-- A header that opens an element of an array keeps the document tidy. -/
lemma openElement_tidy {path : List String} {key : String} {root root' : Keyed Node}
    (tidy : Each Node.Tidy root) (done : openElement path key root = .ok root') :
    Each Node.Tidy root' := by
  refine Change.KeepsTidy.within ?_ _ _ _ _ _ _ _ tidy done
  intro _ entries entries' tidy done
  simp only at done
  split at done
  · cases done
    exact tidy.put key (.tables Text.Keyed.ordered_nil nofun nofun nofun)
  · cases done
    cases tidy.get? ‹_› with
    | tables ordered each others othersEach =>
      refine tidy.put key (.tables Text.Keyed.ordered_nil nofun ?_ ?_)
      · exact List.forall_mem_cons.mpr ⟨ordered, others⟩
      · exact List.forall_mem_cons.mpr ⟨each, othersEach⟩
  · cases done

/-! ## Reading values -/

namespace Reader

variable {α β : Type} {P : α → Prop} {r : Reader α}

/-- Something holds of whatever is read. -/
def Gives (r : Reader α) (P : α → Prop) : Prop :=
  ∀ input a rest, r input = .ok (a, rest) → P a

/-- A choice of two readers gives what both give. -/
lemma Gives.orElse {s : Reader α} (first : r.Gives P) (second : s.Gives P) :
    (r.orElse s).Gives P := by
  intro input a rest read
  unfold Reader.orElse at read
  split at read
  · split_ifs at read
    exact second _ _ _ read
  · exact first _ _ _ read

/-- A reader gives what it gives, whatever its faults are called. -/
lemma Gives.onFault (gives : r.Gives P) (change : Fault → Fault) : (r.onFault change).Gives P := by
  intro input a rest read
  exact gives _ _ _ (mapError_eq_ok.mp read)

/-- A reader whose results are changed gives what the change makes. -/
lemma gives_map {f : β → α} {r : Reader β} (each : ∀ b, P (f b)) : (r.map f).Gives P := by
  intro input a rest read
  unfold Reader.map at read
  cases first : r input with
  | error e => simp [first, Except.map] at read
  | ok found =>
    rw [first] at read
    cases read
    exact each _

/-- Reading on after commas gives items as the reader of one gives. -/
lemma Gives.more (gives : r.Gives P) (fuel : Nat) :
    (Reader.more r fuel).Gives fun as => ∀ a ∈ as, P a := by
  intro input as rest read
  fun_induction Reader.more r fuel input generalizing as rest with
  | case1 | case5 =>
    cases read
    exact nofun
  | case2 fuel input a input' item ih =>
    obtain ⟨⟨others, _⟩, more, made⟩ := bind_eq_ok.mp read
    cases made
    exact List.forall_mem_cons.mpr ⟨gives _ _ _ item, ih _ _ more⟩
  | case3 => cases read
  | case4 =>
    cases read
    exact nofun

/-- A list with commas gives items as the reader of one gives. -/
lemma Gives.separated (gives : r.Gives P) : (separated r).Gives fun as => ∀ a ∈ as, P a := by
  intro input as rest read
  unfold Reader.separated at read
  split at read
  next item =>
    obtain ⟨⟨others, _⟩, more, made⟩ := bind_eq_ok.mp read
    cases made
    exact List.forall_mem_cons.mpr ⟨gives _ _ _ item, gives.more _ _ _ _ more⟩
  next =>
    split_ifs at read
    cases read
    exact nofun

end Reader

open Reader (gives_map)

/-- A word gives the value that it stands for. -/
lemma word_gives {expected : List Char} {v : Value} (tidy : v.Tidy) :
    (word expected v).Gives Value.Tidy := by
  intro input v' rest read
  unfold word at read
  split_ifs at read
  cases read
  exact tidy

/-- Numbers and dates are tidy. -/
lemma numeric_gives : numeric.Gives Value.Tidy :=
  Reader.Gives.orElse (gives_map .moment)
    (Reader.Gives.orElse (gives_map .real) (gives_map .integer))

/-- Values that hold no others are tidy. -/
lemma simpleValue_gives : simpleValue.Gives Value.Tidy := by
  intro input v rest read
  unfold simpleValue at read
  split at read
  · cases read
  · split_ifs at read
    · exact gives_map (fun _ => .text _) _ _ _ read
    · exact numeric_gives _ _ _ read
    · exact Reader.Gives.onFault (gives_map .integer) _ _ _ _ read
    · exact Reader.Gives.onFault (gives_map .real) _ _ _ _ read
    · exact Reader.Gives.onFault (word_gives (.flag true)) _ _ _ _ read
    · exact Reader.Gives.onFault (word_gives (.flag false)) _ _ _ _ read
    · exact word_gives (.real _) _ _ _ read
    · exact word_gives (.real _) _ _ _ read

/-- An inline table of tidy values is tidy. -/
lemma lineTable_tidy {entries : List (List String × Value)} {table : Keyed Node}
    (tidy : ∀ e ∈ entries, e.2.Tidy) (made : lineTable entries = .ok table) :
    Each Node.Tidy table := by
  refine foldlM_keeps ?_ Each.nil made
  intro e member table table' start step
  exact addEntry_keepsTidy (tidy e member) false _ _ start step

section Items

variable {item : Reader Value} (tidy : item.Gives Value.Tidy)

include tidy

/-- An item of an array is tidy if the values inside are. -/
lemma arrayItem_gives : (arrayItem item).Gives Value.Tidy := by
  intro input v rest read
  obtain ⟨_, -, read⟩ := bind_eq_ok.mp read
  obtain ⟨⟨v', _⟩, item, read⟩ := bind_eq_ok.mp read
  obtain ⟨_, -, made⟩ := bind_eq_ok.mp read
  cases made
  exact tidy _ _ _ item

/-- An array is tidy if the values inside are. -/
lemma arrayTail_gives : (arrayTail item).Gives Value.Tidy := by
  intro input v rest read
  unfold arrayTail at read
  rw [mapError_eq_ok] at read
  split at read
  · cases read
    exact .array nofun
  · obtain ⟨⟨vs, _⟩, items, read⟩ := bind_eq_ok.mp read
    obtain ⟨_, -, read⟩ := bind_eq_ok.mp read
    split at read
    · cases read
      exact .array ((arrayItem_gives tidy).separated _ _ _ items)
    · cases read

/-- An entry of an inline table is tidy if the values inside are. -/
lemma lineEntry_gives : (lineEntry item).Gives fun entry => entry.2.Tidy := by
  intro input entry rest read
  obtain ⟨_, -, read⟩ := bind_eq_ok.mp read
  obtain ⟨_, item, made⟩ := bind_eq_ok.mp read
  cases made
  exact tidy _ _ _ (mapError_eq_ok.mp item)

/-- An inline table is tidy if the values inside are. -/
lemma tableTail_gives : (tableTail item).Gives Value.Tidy := by
  intro input v rest read
  unfold tableTail at read
  rw [mapError_eq_ok] at read
  obtain ⟨⟨entries, _⟩, items, read⟩ := bind_eq_ok.mp read
  simp only at read
  split at read
  · cases read
  next table made =>
    split at read
    · cases read
      have each := lineTable_tidy ((lineEntry_gives tidy).separated _ _ _ items) made
      exact .table (each_values each).ordered (each_values each).each
    · cases read

end Items

/-- Values are tidy, however deep they may be nested. -/
lemma valueWithin_gives (levels : Nat) : (valueWithin levels).Gives Value.Tidy := by
  induction levels with
  | zero =>
    intro input v rest read
    unfold valueWithin at read
    split at read
    · cases read
    · cases read
    · exact simpleValue_gives _ _ _ read
  | succ levels ih =>
    intro input v rest read
    unfold valueWithin at read
    split at read
    · exact arrayTail_gives ih _ _ _ read
    · exact tableTail_gives ih _ _ _ read
    · exact simpleValue_gives _ _ _ read

/-! ## Reading documents -/

/-- The value of an entry is tidy. -/
def Line.Tidy : Line → Prop
  | .entry _ _ v => v.Tidy
  | _ => True

/-- A line with an entry is tidy. -/
lemma entryLine_gives : entryLine.Gives Line.Tidy := by
  intro input line rest read
  obtain ⟨_, -, read⟩ := bind_eq_ok.mp read
  obtain ⟨_, item, read⟩ := bind_eq_ok.mp read
  obtain ⟨_, -, made⟩ := bind_eq_ok.mp read
  cases made
  exact valueWithin_gives _ _ _ _ item

/-- A header between brackets is tidy if the line it stands for is. -/
lemma headerLine_gives {closing : List Char} {line : List String → String → Line}
    (tidy : ∀ path key, (line path key).Tidy) : (headerLine closing line).Gives Line.Tidy := by
  intro input l rest read
  obtain ⟨_, -, read⟩ := bind_eq_ok.mp read
  simp only at read
  split_ifs at read
  obtain ⟨_, -, made⟩ := bind_eq_ok.mp read
  cases made
  exact tidy _ _

/-- A header of either kind is tidy. -/
lemma anyHeader_gives : anyHeader.Gives Line.Tidy := by
  intro input line rest read
  unfold anyHeader at read
  rw [mapError_eq_ok] at read
  split at read
  · refine headerLine_gives ?_ _ _ _ read
    exact fun _ _ => trivial
  · cases read
  · refine headerLine_gives ?_ _ _ _ read
    exact fun _ _ => trivial

/-- A tidy line keeps a draft tidy. -/
lemma Draft.add_tidy {d d' : Draft} {line : Line} (tidy : Each Node.Tidy d.root)
    (lineTidy : line.Tidy) (done : d.add line = .ok d') : Each Node.Tidy d'.root := by
  cases line with
  | entry path key v =>
    obtain ⟨root, changed, made⟩ := bind_eq_ok.mp done
    cases made
    exact (addEntry_keepsTidy lineTidy).within _ _ _ _ _ _ _ tidy changed
  | header path key =>
    obtain ⟨root, changed, made⟩ := bind_eq_ok.mp done
    cases made
    exact openTable_tidy tidy changed
  | element path key =>
    obtain ⟨root, changed, made⟩ := bind_eq_ok.mp done
    cases made
    exact openElement_tidy tidy changed

/-- All lines of a document keep a draft tidy. -/
lemma lines_tidy {d d' : Draft} {fuel : Nat} {input : Input} (tidy : Each Node.Tidy d.root)
    (done : lines d fuel input = .ok d') : Each Node.Tidy d'.root := by
  induction fuel generalizing d input with
  | zero => cases done
  | succ fuel ih =>
    -- A line that says something is added; any other line leaves the draft as it is.
    have said {r : Reader Line} (gives : r.Gives Line.Tidy)
        (done : (r (skipBlanks input) >>= fun p =>
          d.addAt (skipBlanks input) p.1 >>= fun d => lines d fuel p.2) = .ok d') :
        Each Node.Tidy d'.root := by
      obtain ⟨⟨line, rest⟩, read, done⟩ := bind_eq_ok.mp done
      obtain ⟨next, added, done⟩ := bind_eq_ok.mp done
      exact ih (Draft.add_tidy tidy (gives _ _ _ read) (mapError_eq_ok.mp added)) done
    rw [lines] at done
    split at done
    · cases done
      exact tidy
    · obtain ⟨_, -, done⟩ := bind_eq_ok.mp done
      exact ih tidy done
    · exact said anyHeader_gives done
    · split at done
      · exact ih tidy done
      · split_ifs at done
        exact said entryLine_gives done

/-- All tables of a document that is read have their keys in order. -/
theorem each_of_read {text : String} {table : Table} (done : read text = .ok table) :
    Each Value.Tidy table := by
  obtain ⟨d, built, made⟩ := bind_eq_ok.mp done
  cases made
  exact each_values (lines_tidy Each.nil built)

end WalletNotify.Toml
