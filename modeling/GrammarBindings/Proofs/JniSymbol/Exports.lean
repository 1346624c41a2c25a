/-
  GrammarBindings.Proofs.JniSymbol.Exports

  The symbols that the C file of a binding exports, one for each of its C
  functions.  They share the package and the class, so two of them are equal
  exactly when the escapes of their functions are, that is when these have the
  same reading.  A reading differs from its name only where a character lies
  beyond U+FFFF; `wideNames` is a valid spec with two functions that such a
  character brings to the same symbol.
-/
import GrammarBindings.Artifact
import GrammarBindings.Proofs.JniSymbol.Reading
import Mathlib.Data.List.Nodup

namespace GrammarBindings

/-! ## The definitions in the C file -/

namespace JniSymbol

/-- Two methods of a class have the same symbol exactly when their names have the
    same reading. -/
theorem ofMethod_eq_iff {package className f g : String} :
    ofMethod package className f = ofMethod package className g ↔
      nameReading f = nameReading g := by
  rw [ofMethod, ofMethod, String.append_right_inj, escape_eq_iff]

end JniSymbol

namespace Spec

/-- The symbols of a spec's C functions, in the order of the functions. -/
def exportedSymbols (s : Spec) : List String :=
  s.accessors.distinctFunctions.map (JniSymbol.ofMethod s.package s.className)

/-- The definition of the native method with a symbol, which calls a C function. -/
def nativeEntry (symbol function : String) : String :=
  "NATIVE_FUNCTION(" ++ symbol ++ ") \x7b\n" ++ "    return (jlong)" ++ function ++ "();\n" ++
    "\x7d\n"

theorem nativeFunction_stem (package className function : String) :
    nativeFunction (JniSymbol.stem package className) function =
      nativeEntry (JniSymbol.ofMethod package className function) function := by
  have hname (stem name : String) :
      "NATIVE_FUNCTION(" ++ stem ++ name = "NATIVE_FUNCTION(" ++ (stem ++ name) :=
    String.append_assoc
  exact congrArg
    (· ++ ") \x7b\n" ++ "    return (jlong)" ++ function ++ "();\n" ++ "\x7d\n") (hname _ _)

/-- The C file has one definition for each symbol, in order. -/
theorem nativeFunctions_eq (s : Spec) :
    s.nativeFunctions =
      String.join (List.zipWith nativeEntry s.exportedSymbols s.accessors.distinctFunctions) := by
  rw [nativeFunctions, exportedSymbols, List.zipWith_map_left, List.zipWith_self]
  exact congrArg String.join
    (List.map_congr_left fun f _ => nativeFunction_stem s.package s.className f)

/-! ## Symbols of different functions -/

/-- The names under which the C file defines its methods are the exported symbols.
    Two different functions get the same one exactly when their readings are
    equal, and then one of their names has a character beyond U+FFFF. -/
theorem exportedSymbols_eq_iff_reading_eq (v : ValidSpec) (l : Layout) :
    (v.spec.substitution l .jni).value? "FUNCTIONS".toList =
        some (String.join (List.zipWith nativeEntry v.spec.exportedSymbols
          v.spec.accessors.distinctFunctions)) ∧
      ∀ f ∈ v.spec.accessors.distinctFunctions, ∀ g ∈ v.spec.accessors.distinctFunctions,
        f ≠ g →
          (JniSymbol.ofMethod v.spec.package v.spec.className f =
              JniSymbol.ofMethod v.spec.package v.spec.className g ↔
            JniSymbol.nameReading f = JniSymbol.nameReading g) ∧
          (JniSymbol.ofMethod v.spec.package v.spec.className f =
              JniSymbol.ofMethod v.spec.package v.spec.className g →
            ∃ c ∈ f.toList ++ g.toList, 0xFFFF < c.toNat) := by
  refine ⟨?_, fun f _ g _ hne => ⟨JniSymbol.ofMethod_eq_iff, fun heq => ?_⟩⟩
  · rw [← nativeFunctions_eq]
    rfl
  · -- with no wide character the names themselves can be told from their escapes
    by_contra hnarrow
    have hle : ∀ c ∈ f.toList ++ g.toList, c.toNat ≤ 0xFFFF := fun c hc =>
      Nat.le_of_not_lt fun hlt => hnarrow ⟨c, hc, hlt⟩
    have hescape : JniSymbol.escape f = JniSymbol.escape g :=
      (String.append_right_inj _).1 heq
    exact hne (JniSymbol.eq_of_escape_eq (fun c hc => hle c (List.mem_append_left _ hc))
      (fun c hc => hle c (List.mem_append_right _ hc)) hescape)

/-- A spec whose two functions are `ᵀ0`, with U+1D40, and `𝐀`, which is U+1D400. -/
def wideNames : Spec where
  baseDir := ⟨"/repo"⟩
  grammar := "foo"
  sources := []
  interop := "grammar"
  library := "ktreesitter-foo"
  package := "com.example"
  className := "Foo"
  accessors := ⟨[("language", "ᵀ0"), ("other", "𝐀")], by decide⟩

theorem wideNames_valid : wideNames.Valid where
  package := by decide +kernel
  className := by decide +kernel
  interop := by decide +kernel
  accessors := by simp [wideNames]
  entries := by decide +kernel

/-- The theorem at two functions that do share a symbol. -/
theorem exportedSymbols_eq_iff_reading_eq_wideNames :
    ("ᵀ0" ∈ wideNames.accessors.distinctFunctions ∧
        "𝐀" ∈ wideNames.accessors.distinctFunctions ∧ "ᵀ0" ≠ "𝐀") ∧
      JniSymbol.ofMethod wideNames.package wideNames.className "ᵀ0" =
        JniSymbol.ofMethod wideNames.package wideNames.className "𝐀" ∧
      ∃ c ∈ "ᵀ0".toList ++ "𝐀".toList, 0xFFFF < c.toNat := by
  have hf : "ᵀ0" ∈ wideNames.accessors.distinctFunctions := by decide +kernel
  have hg : "𝐀" ∈ wideNames.accessors.distinctFunctions := by decide +kernel
  have hne : "ᵀ0" ≠ "𝐀" := by decide +kernel
  have hsame : JniSymbol.nameReading "ᵀ0" = JniSymbol.nameReading "𝐀" := by decide +kernel
  obtain ⟨hiff, hwide⟩ :=
    (exportedSymbols_eq_iff_reading_eq ⟨wideNames, wideNames_valid⟩ ⟨⟨"/out"⟩⟩).2
      "ᵀ0" hf "𝐀" hg hne
  exact ⟨⟨hf, hg, hne⟩, hiff.2 hsame, hwide (hiff.2 hsame)⟩

/-- Not all symbols of a valid spec are different. -/
theorem exportedSymbols_not_nodup :
    wideNames.Valid ∧ "ᵀ0" ∈ wideNames.accessors.distinctFunctions ∧
      "𝐀" ∈ wideNames.accessors.distinctFunctions ∧ "ᵀ0" ≠ "𝐀" ∧
      JniSymbol.ofMethod wideNames.package wideNames.className "ᵀ0" =
        JniSymbol.ofMethod wideNames.package wideNames.className "𝐀" ∧
      ¬ wideNames.exportedSymbols.Nodup := by
  refine ⟨wideNames_valid, ?_⟩
  decide +kernel

end Spec

end GrammarBindings
