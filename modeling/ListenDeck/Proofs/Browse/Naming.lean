import ListenDeck.Proofs.Browse.Turns
import ListenDeck.Proofs.Text.Numerals

/-!
# What the address bar names

* `Names`: the pages that a parameter names, said by the grammar of numerals; it is what is read of
  the parameter (`readPage?_eq_some_iff`).
* `AddressBar.pageText_push`: a new entry of the address bar is the current one.
* `Pager.pageNamed_push`: it names its page.
-/

namespace ListenDeck

/-- **The parameter names the page**: with blanks around it, it is a numeral of the page's number,
of 64 bits with a sign. -/
def Names (parameter : Option String) (page : Int64) : Prop :=
  ∃ text cs, parameter = some text ∧ Text.Padded text.toList cs ∧ Text.IsInteger cs page.toInt

/-- **The page that is read** is the one that the parameter names. -/
theorem readPage?_eq_some_iff {parameter : Option String} {page : Int64} :
    readPage? parameter = some page ↔ Names parameter page := by
  unfold readPage? Names
  rw [Option.bind_eq_some_iff]
  constructor
  · rintro ⟨text, rfl, h⟩
    obtain ⟨cs, hpadded, hcs⟩ := Text.readInt64?_trim_iff.mp h
    exact ⟨text, cs, rfl, hpadded, hcs⟩
  · rintro ⟨text, cs, rfl, hpadded, hcs⟩
    exact ⟨text, rfl, Text.readInt64?_trim_iff.mpr ⟨cs, hpadded, hcs⟩⟩

theorem AddressBar.pageText_push (bar : AddressBar) (page : Nat) :
    (bar.push page).pageText = some (Text.decimal page) := by
  unfold pageText current push
  simp

/-- **A new entry names its page.** -/
theorem Pager.pageNamed_push (bar : AddressBar) {page : Nat} (h : page ≤ maxPageNumber) :
    pageNamed (bar.push page).pageText = page := by
  have hlt : page < 2 ^ 63 := Nat.lt_of_le_of_lt h (by decide)
  have hin : Text.InInt64 page := by unfold Text.InInt64; omega
  unfold pageNamed readPage?
  rw [AddressBar.pageText_push, Option.bind_some, Text.trim_decimal, Text.readInt64?_decimal hin]
  exact Text.toInt_ofInt hin

end ListenDeck
