import Taoshan.Lib.Flatten

/-!
# Camera Parameters

`android::CameraParameters` as the camera wrapper uses it. The class is not
part of the repository, so it is a parameter of the model: a type of maps with
`get`, `set`, `flatten` and `unflatten`.

What is relied on is said by `Lawful`. Keys and values go without `;` and `=`,
which are the marks of the text a map is flattened to: such an entry is found
again after it was set, and such a map is the same after it was flattened and
unflattened.

`stringMap` is a map that behaves so.

## Main definitions

* `CameraParameters`, `Lawful`: The class, and what is relied on.
* `Clean`, `AllClean`: Strings and maps without the two marks.
* `stringMap`: An instance.

## Theorems

* `allClean_set`: A map stays clean.
* `stringMap_lawful`: The instance behaves.
-/

namespace Taoshan

namespace Camera

/-- A string of the program, without the byte that ends it. -/
abbrev CStr := List UInt8

/-- The marks of a flattened map. -/
def ASSIGN : UInt8 := 0x3D
def SEPARATOR : UInt8 := 0x3B

/-- Neither of the marks is in the string. -/
def Clean (s : CStr) : Prop := ∀ b ∈ s, b ≠ ASSIGN ∧ b ≠ SEPARATOR

-- Over the bytes of the string and not over all bytes there are.
instance : DecidablePred Clean := fun s =>
  List.decidableBAll (fun b => b ≠ ASSIGN ∧ b ≠ SEPARATOR) s

theorem Clean.append {s t : CStr} (hs : Clean s) (ht : Clean t) : Clean (s ++ t) := by
  intro b hb
  rcases List.mem_append.mp hb with hb | hb
  · exact hs b hb
  · exact ht b hb

/-- `android::CameraParameters`. -/
structure CameraParameters where
  Params : Type
  get : Params → CStr → Option CStr
  set : Params → CStr → CStr → Params
  flatten : Params → CStr
  unflatten : CStr → Params

namespace CameraParameters

variable (C : CameraParameters)

/-- All keys and values of the map are clean. -/
def AllClean (m : C.Params) : Prop := ∀ k v, C.get m k = some v → Clean k ∧ Clean v

/-- What the wrapper relies on. An empty value is an entry like any other here, where
    the class of the platform gives NULL for it. The wrapper makes one only of an
    `iso` with nothing behind its first three bytes: what it copies was there, and the
    other values it sets are not empty. -/
structure Lawful : Prop where
  get_set_self : ∀ (m : C.Params) {k v : CStr}, Clean k → Clean v → C.get (C.set m k v) k = some v
  get_set_ne : ∀ (m : C.Params) {k x : CStr} (v : CStr), x ≠ k → C.get (C.set m k v) x = C.get m x
  get_unflatten_flatten : ∀ {m : C.Params}, C.AllClean m → ∀ x,
    C.get (C.unflatten (C.flatten m)) x = C.get m x

variable {C}

theorem allClean_set (hC : C.Lawful) {m : C.Params} {k v : CStr} (hm : C.AllClean m)
    (hk : Clean k) (hv : Clean v) : C.AllClean (C.set m k v) := by
  intro x w hw
  by_cases hx : x = k
  · rw [hx, hC.get_set_self m hk hv, Option.some.injEq] at hw
    rw [hx, ← hw]
    exact ⟨hk, hv⟩
  · rw [hC.get_set_ne m v hx] at hw
    exact hm x w hw

/-- A map that was flattened and unflattened is as clean as it was. -/
theorem allClean_unflatten (hC : C.Lawful) {m : C.Params} (hm : C.AllClean m) :
    C.AllClean (C.unflatten (C.flatten m)) := by
  intro x w hw
  rw [hC.get_unflatten_flatten hm] at hw
  exact hm x w hw

end CameraParameters

/-- Strings by strings, written as `key=value` with `;` in between. -/
def stringMap : CameraParameters where
  Params := { m : Flatten.Pairs UInt8 // (m.map Prod.fst).Nodup }
  get m x := Flatten.get m.1 x
  set m k v := ⟨Flatten.set m.1 k v, Flatten.nodup_set m.2 k v⟩
  flatten m := Flatten.print ASSIGN SEPARATOR m.1
  unflatten s :=
    ⟨Flatten.ofPairs (Flatten.parse ASSIGN SEPARATOR s.length s), Flatten.nodup_ofPairs _⟩

theorem stringMap_lawful : stringMap.Lawful where
  get_set_self m k v _ _ := Flatten.get_set_self m.1 k v
  get_set_ne m _ _ v h := Flatten.get_set_ne m.1 v h
  get_unflatten_flatten := by
    intro m hm x
    have hmarks : ∀ kv ∈ m.1, ASSIGN ∉ kv.1 ∧ SEPARATOR ∉ kv.2 := by
      intro kv hkv
      have hclean := hm kv.1 kv.2 (Flatten.get_of_mem m.2 hkv)
      exact ⟨fun h => (hclean.1 _ h).1 rfl, fun h => (hclean.2 _ h).2 rfl⟩
    have hread : Flatten.parse ASSIGN SEPARATOR (Flatten.print ASSIGN SEPARATOR m.1).length
        (Flatten.print ASSIGN SEPARATOR m.1) = m.1 :=
      Flatten.parse_print hmarks (Flatten.length_le_print m.1)
    have hsame := Flatten.get_ofPairs m.2 x
    simp only [stringMap]
    rw [hread]
    exact hsame

/-- Whether a map of it is clean can be read off its entries. -/
theorem stringMap_allClean {m : stringMap.Params}
    (h : ∀ kv ∈ m.1, Clean kv.1 ∧ Clean kv.2) : stringMap.AllClean m :=
  fun _ _ hget => h _ (Flatten.mem_of_get hget)

end Camera

end Taoshan
