import Mathlib.Data.List.AList
import Mathlib.Data.List.Sort
import Mathlib.Data.String.Basic

/-! The vocabulary of `pkg/protocol` shared by the participant store, the membership table
and the coordinator, with the few string functions of the Go library the code relies on. -/

namespace TwoPc

/-- `protocol.NodeRole`: the code only ever stores `RoleMaster` or `RoleSlave`. -/
inductive NodeRole
  | master
  | slave
  deriving DecidableEq, Repr

inductive TxState
  | init
  | prepare
  | ready
  | commit
  | abort
  deriving DecidableEq, Repr

def statusReady : String := "READY"

def statusAbort : String := "ABORT"

structure PrepareResponse where
  status : String
  error : String
  deriving DecidableEq, Repr

structure CommitResponse where
  success : Bool
  error : String
  deriving DecidableEq, Repr

structure TransactionResponse where
  transactionID : String
  success : Bool
  message : String
  error : String
  deriving DecidableEq, Repr

theorem bind_eq_ok {ε α β : Type} {x : Except ε α} {f : α → Except ε β} {b : β} :
    x >>= f = .ok b ↔ ∃ a, x = .ok a ∧ f a = .ok b := by
  cases x <;> simp [bind, Except.bind]

def containsText (s sub : String) : Bool :=
  s.toList.tails.any (sub.toList.isPrefixOf ·)

/-- `strings.ToLower` on an identifier: `safeIdent` only lowers pure ASCII strings. -/
def toLower (s : String) : String := ⟨s.toList.map Char.toLower⟩

/-- `strings.ToUpper` on the letters whose upper case is ASCII: `a` to `z`, the dotless `ı` and
the long `ſ`. Other letters are left as they are. -/
def toUpper (s : String) : String :=
  ⟨s.toList.map fun c => if c.toNat = 0x131 then 'I' else if c.toNat = 0x17F then 'S' else c.toUpper⟩

def isSpace (c : Char) : Bool :=
  c = '\t' || c = '\n' || c = Char.ofNat 11 || c = Char.ofNat 12 || c = '\r' || c = ' ' ||
    c.toNat = 0x85 || c.toNat = 0xA0 || c.toNat = 0x1680 || (0x2000 ≤ c.toNat && c.toNat ≤ 0x200A) ||
    c.toNat = 0x2028 || c.toNat = 0x2029 || c.toNat = 0x202F || c.toNat = 0x205F ||
    c.toNat = 0x3000

def trimSpace (s : String) : String :=
  ⟨((s.toList.dropWhile isSpace).reverse.dropWhile isSpace).reverse⟩

/-- `sort.Strings` compares strings byte by byte; on UTF-8 that is the order of code points. -/
def keyLe (a b : String) : Prop := a.toList ≤ b.toList

instance : DecidableRel keyLe := fun a b => inferInstanceAs (Decidable (a.toList ≤ b.toList))

theorem keyLe_iff (a b : String) : keyLe a b ↔ a ≤ b := by
  simp only [keyLe, String.le_iff_toList_le]

def sortStrings (xs : List String) : List String := xs.insertionSort keyLe

theorem sortStrings_perm (xs : List String) : List.Perm (sortStrings xs) xs :=
  List.perm_insertionSort _ _

theorem sortStrings_sorted (xs : List String) : (sortStrings xs).Sorted (· ≤ ·) := by
  have : IsTotal String keyLe := ⟨fun a b => by simp only [keyLe_iff]; exact le_total a b⟩
  have : IsTrans String keyLe := ⟨fun a b c => by simp only [keyLe_iff]; exact le_trans⟩
  exact (List.sorted_insertionSort keyLe xs).imp fun h => (keyLe_iff _ _).mp h

end TwoPc
