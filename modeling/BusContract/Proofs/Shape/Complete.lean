import BusContract.Proofs.Shape.Recursion
import BusContract.Proofs.Signature.Layout

/-!
# Classes that are sent as complete types

A class that gives no signature itself and is not opened for its fields is sent as a complete type,
and one that is opened is the struct of its fields if each of them is sent as one.
-/

namespace BusContract

open BusContract.CompleteType (signature layout)

/-! ## Classes that are no structs -/

/-- The scalars have complete types, none of which is a struct. -/
theorem exists_type_of_mem_scalarClasses {entry : ClassName × String} (h : entry ∈ scalarClasses) :
    ∃ t, entry.2 = signature [t] ∧ layout [t] = [t] := by
  revert entry
  simp only [scalarClasses, List.forall_mem_cons]
  refine ⟨⟨.basic .objectPath, rfl, rfl⟩, ⟨.basic .signature, rfl, rfl⟩, ⟨.basic .boolean, rfl, rfl⟩,
    ⟨.basic .int32, rfl, rfl⟩, ⟨.basic .double, rfl, rfl⟩, ⟨.basic .string, rfl, rfl⟩,
    ⟨.array (.basic .byte), rfl, rfl⟩, ⟨.array (.basic .byte), rfl, rfl⟩, nofun⟩

namespace Classes

variable {classes : Classes} {c : ClassName} {s : String}

/-- A class that gives no signature itself and is not opened has a complete type that is no
struct. -/
theorem exists_type_of_simple? (hexplicit : classes.explicit? c = none)
    (h : classes.simple? c = some (.ok s)) : ∃ t, s = signature [t] ∧ layout [t] = [t] := by
  obtain hgiven | ⟨-, -, -, rfl⟩ | ⟨-, -, -, -, rfl⟩ | ⟨-, -, hscalar⟩ := simple?_ok_cases h
  · exact absurd (hexplicit.symm.trans hgiven) nofun
  · exact ⟨.basic .uint32, rfl, rfl⟩
  · exact ⟨.basic .string, rfl, rfl⟩
  · obtain ⟨entry, hentry, rfl⟩ := Option.map_eq_some_iff.mp hscalar
    exact exists_type_of_mem_scalarClasses (List.mem_of_find?_eq_some hentry)

/-- Whatever is not sent as a struct has a complete type that is none. -/
theorem exists_type_of_not_sentAsStruct (hexplicit : classes.explicit? c = none)
    (hc : ¬ classes.SentAsStruct c) (h : classes.wire (.cls c) = .ok s) :
    ∃ t, s = signature [t] ∧ layout [t] = [t] := by
  have hunfolds := wire_eq_ok_iff.mp h
  cases hunfolds with
  | anything => exact ⟨.variant, rfl, rfl⟩
  | named _ _ hany hvariant hgeneric hclass =>
    obtain hsimple | ⟨hsimple, -⟩ := unfolds_cls_iff.mp hclass
    · exact exists_type_of_simple? hexplicit hsimple
    · exact absurd ⟨⟨hany, hvariant, hgeneric⟩, hsimple⟩ hc

/-- A struct of fields of complete types is the struct of these types. -/
theorem wire_struct_of_types {types : List Shape} {ts : List CompleteType}
    (hc : classes.SentAsStruct c) (htypes : classes.fieldTypes c = .ok types)
    (hwires : types.map classes.wire = ts.map fun t => .ok (signature [t]))
    (h : classes.wire (.cls c) = .ok s) :
    ∃ first rest, ts = first :: rest ∧ s = signature [.struct first rest] := by
  -- a struct without fields has no signature
  have hfields : types ≠ [] := by
    rintro rfl
    have hclass := (wire_cls_eq_ok_iff hc.1).mp h
    obtain hsimple | ⟨-, types', _, htypes', hfields, -⟩ := unfolds_cls_iff.mp hclass
    · exact absurd (hc.2.symm.trans hsimple) nofun
    · rw [htypes] at htypes'
      exact hfields (Except.ok.inj htypes').symm
  have hjoin : types.map classes.wire = (ts.map fun t => signature [t]).map .ok := by
    rw [hwires, List.map_map]
    rfl
  have hwire := wire_struct hc htypes hfields hjoin
  rw [h, CompleteType.join_map_signature] at hwire
  cases ts with
  | nil =>
    have hnone : types.length = 0 := by simpa using congrArg List.length hwires
    exact absurd (List.length_eq_zero_iff.mp hnone) hfields
  | cons first rest =>
    refine ⟨first, rest, rfl, ?_⟩
    rw [CompleteType.signature_struct]
    exact Except.ok.inj hwire

end Classes

end BusContract
