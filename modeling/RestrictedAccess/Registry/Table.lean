/-
A table of window configurations in ascending order of the keys they are filed under. The table does
not look into the windows. Whoever writes one sees to it that the window carries its key as its
identifier. Two tables that answer every look-up alike are equal.
-/

import RestrictedAccess.Window

namespace RestrictedAccess

structure Filing where
  key : WindowId
  window : WindowConfig

/-- Windows in strictly ascending order of their keys. -/
structure WindowTable where
  filings : List Filing
  ascending : filings.Pairwise (fun earlier later => earlier.key < later.key)

namespace WindowTable

def find? (table : WindowTable) (key : WindowId) : Option WindowConfig :=
  (table.filings.find? (fun filing => filing.key = key)).map Filing.window

def size (table : WindowTable) : Nat :=
  table.filings.length

def ids (table : WindowTable) : List WindowId :=
  table.filings.map Filing.key

def windows (table : WindowTable) : List WindowConfig :=
  table.filings.map Filing.window

def empty : WindowTable :=
  ⟨[], List.Pairwise.nil⟩

/-- File a window in a list, in place of the one with its key if there is one. -/
def file (filing : Filing) : List Filing → List Filing
  | [] => [filing]
  | head :: tail =>
      if filing.key < head.key then filing :: head :: tail
      else if filing.key = head.key then filing :: tail
      else head :: file filing tail

theorem mem_file {filing other : Filing} {filings : List Filing}
    (member : other ∈ file filing filings) : other = filing ∨ other ∈ filings := by
  induction filings with
  | nil => exact Or.inl (List.mem_singleton.mp member)
  | cons head tail ih =>
      simp only [file] at member
      split at member
      · exact List.mem_cons.mp member
      · split at member
        · rcases List.mem_cons.mp member with same | inTail
          · exact Or.inl same
          · exact Or.inr (List.mem_cons_of_mem head inTail)
        · rcases List.mem_cons.mp member with same | inTail
          · exact Or.inr (same ▸ List.mem_cons_self)
          · rcases ih inTail with same | present
            · exact Or.inl same
            · exact Or.inr (List.mem_cons_of_mem head present)

theorem ascending_file (filing : Filing) {filings : List Filing}
    (ascending : filings.Pairwise (fun earlier later => earlier.key < later.key)) :
    (file filing filings).Pairwise (fun earlier later => earlier.key < later.key) := by
  induction filings with
  | nil => exact List.pairwise_singleton _ filing
  | cons head tail ih =>
      have parts := List.pairwise_cons.mp ascending
      simp only [file]
      split
      · rename_i below
        refine List.pairwise_cons.mpr ⟨?_, ascending⟩
        intro other member
        rcases List.mem_cons.mp member with same | inTail
        · exact same ▸ below
        · exact UInt16.lt_trans below (parts.1 other inTail)
      · split
        · rename_i same
          refine List.pairwise_cons.mpr ⟨?_, parts.2⟩
          intro other member
          exact same ▸ parts.1 other member
        · rename_i notBelow different
          have above : head.key < filing.key :=
            UInt16.lt_of_le_of_ne (UInt16.not_lt.mp notBelow) (Ne.symm different)
          refine List.pairwise_cons.mpr ⟨?_, ih parts.2⟩
          intro other member
          rcases mem_file member with same | inTail
          · exact same ▸ above
          · exact parts.1 other inTail

def insert (table : WindowTable) (key : WindowId) (window : WindowConfig) : WindowTable :=
  ⟨file ⟨key, window⟩ table.filings, ascending_file ⟨key, window⟩ table.ascending⟩

def erase (table : WindowTable) (key : WindowId) : WindowTable :=
  ⟨table.filings.filter (fun filing => filing.key ≠ key), table.ascending.filter _⟩

end WindowTable

end RestrictedAccess
