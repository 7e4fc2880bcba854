import StructureGrader.Proofs.Difference.Line

/-!
# Rendered signatures

A header whose parts do not look like modifiers or parameters (`MethodHeader.Plain` and the like for
other kinds) can be read off its signature. So the remarks on two rendered signatures are the
components in which the two headers differ (`explain_rendered`), although the explanation has seen
nothing but their texts.
-/

namespace StructureGrader

open Text

/-! ## The explanation of texts -/

/-- Two signatures of elements of a known kind are compared part by part, also where they are the
same. -/
theorem explain_texts (α : Type) [ScoreNumber α] (kind : ElementKind) (a b : String) :
    explain α (some kind) (some a) (some b) = explainTexts α (some kind) a b := by
  rw [explain]
  split_ifs with h
  · obtain rfl : a = b := beq_iff_eq.1 h
    cases kind <;> simp [explainTexts, remarksOf]
  · rfl

/-! ## Headers -/

/-- A text that is one word, without a parenthesis and without a modifier. -/
structure IsLabel (s : String) : Prop extends IsWord s where
  noParenthesis : NoParenthesis s
  unmarked : Unmarked s

instance (s : String) : Decidable (IsLabel s) :=
  decidable_of_iff (IsWord s ∧ NoParenthesis s ∧ Unmarked s)
    ⟨fun ⟨hword, hno, hun⟩ => ⟨hword, hno, hun⟩, fun h => ⟨h.toIsWord, h.noParenthesis, h.unmarked⟩⟩

/-- The parameters as they are rendered. -/
def parameterText (parameters : List String) : String :=
  ", ".intercalate parameters

/-- Parameters that are rendered without a parenthesis and without a modifier. -/
structure PlainParameters (parameters : List String) : Prop where
  noParenthesis : NoParenthesis (parameterText parameters)
  unmarked : Unmarked (parameterText parameters)

instance (parameters : List String) : Decidable (PlainParameters parameters) :=
  decidable_of_iff
    (NoParenthesis (parameterText parameters) ∧ Unmarked (parameterText parameters))
    ⟨fun ⟨hno, hun⟩ => ⟨hno, hun⟩, fun h => ⟨h.noParenthesis, h.unmarked⟩⟩

/-- The type and the name of a method are single words, and no part of its header looks like a
modifier. -/
structure MethodHeader.Plain (h : MethodHeader) : Prop where
  returnType : IsLabel h.returnType
  name : IsLabel h.name
  parameters : PlainParameters h.parameters

/-- The type and the name of a field are single words that do not look like modifiers. -/
structure FieldHeader.Plain (h : FieldHeader) : Prop where
  fieldType : IsLabel h.fieldType
  name : IsLabel h.name

/-- The name of a constructor is a single word, and no part of its header looks like a modifier. -/
structure ConstructorHeader.Plain (h : ConstructorHeader) : Prop where
  name : IsLabel h.name
  parameters : PlainParameters h.parameters

/-- No part of the header of a class or an interface looks like a modifier. -/
structure TypeHeader.Plain (h : TypeHeader) : Prop where
  name : Unmarked h.name
  typeParameters : ∀ ps ∈ h.typeParameters, ∀ p ∈ ps, Unmarked p
  extended : ∀ t ∈ h.extended, Unmarked t
  implemented : ∀ t ∈ h.implemented, Unmarked t

namespace MethodHeader

/-- The modifiers of a method that are rendered besides its access. -/
def flags (h : MethodHeader) : List (Bool × String) :=
  [(h.isStatic, "static"), (h.isAbstract, "abstract"), (h.isFinal, "final")]

/-- The words for the flags of a method are flag words. -/
theorem flags_mem (h : MethodHeader) : ∀ f ∈ h.flags, f.2 ∈ flagWords := by
  simp [flags, flagWords]

/-- The signature of a method is one line of its modifiers, its return type and its name with the
parameters. -/
theorem render_eq (h : MethodHeader) :
    h.render = line h.access h.flags [h.returnType, h.name ++ parameterList h.parameters] := rfl

namespace Plain

variable {h : MethodHeader} (hp : h.Plain)
include hp

/-- Behind the modifiers of a plain method stands no modifier word. -/
theorem body : ∀ s ∈ [h.returnType, h.name ++ parameterList h.parameters], Unmarked s := by
  simpa using ⟨hp.returnType.unmarked, hp.name.unmarked.call hp.parameters.unmarked⟩

/-- The access modifier is read off the signature of a method. -/
theorem access_render : SignatureText.access h.render = shownAccess h.access := by
  rw [render_eq, SignatureText.access_line h.flags_mem hp.body]

/-- A method shows the word static where it is static. -/
theorem static_render : contains h.render "static" = h.isStatic := by
  rw [render_eq, SignatureText.contains_flag h.flags_mem hp.body (by decide)]
  simp [flags]

/-- The return type is read off the signature of a method. -/
theorem returnType_render : SignatureText.returnType h.render = h.returnType := by
  rw [render_eq]
  exact SignatureText.returnType_line h.flags_mem hp.returnType.toIsWord
    hp.returnType.noParenthesis hp.name.toIsWord h.parameters

/-- The parameters are read off the signature of a method. -/
theorem parameters_render : SignatureText.parameters h.render = parameterText h.parameters := by
  rw [render_eq]
  exact SignatureText.parameters_line h.flags_mem [h.returnType]
    (by simpa using hp.returnType.noParenthesis) hp.name.noParenthesis hp.parameters.noParenthesis

/-- The explainer tells two methods apart by their access modifiers, return types, parameters and
whether they are static. -/
theorem explain_render (α : Type) [ScoreNumber α] {other : MethodHeader} (ho : other.Plain) :
    explain α (some .method) (some h.render) (some other.render) = remarksOf
      [(h.access != other.access, .accessModifiers),
        (h.returnType != other.returnType, .returnTypes),
        (parameterText h.parameters != parameterText other.parameters, .parameters),
        (h.isStatic != other.isStatic, .staticModifier)] := by
  rw [explain_texts]
  simp only [explainTexts, hp.access_render, ho.access_render, shownAccess_bne,
    hp.returnType_render, ho.returnType_render, hp.parameters_render, ho.parameters_render,
    hp.static_render, ho.static_render]

end Plain

end MethodHeader

namespace FieldHeader

/-- The modifiers of a field that are rendered besides its access. -/
def flags (h : FieldHeader) : List (Bool × String) :=
  [(h.isStatic, "static"), (h.isFinal, "final")]

/-- The words for the flags of a field are flag words. -/
theorem flags_mem (h : FieldHeader) : ∀ f ∈ h.flags, f.2 ∈ flagWords := by
  simp [flags, flagWords]

/-- The signature of a field is one line of its modifiers, its type and its name. -/
theorem render_eq (h : FieldHeader) : h.render = line h.access h.flags [h.fieldType, h.name] := rfl

namespace Plain

variable {h : FieldHeader} (hp : h.Plain)
include hp

/-- Behind the modifiers of a plain field stands no modifier word. -/
theorem body : ∀ s ∈ [h.fieldType, h.name], Unmarked s := by
  simpa using ⟨hp.fieldType.unmarked, hp.name.unmarked⟩

/-- The access modifier is read off the signature of a field. -/
theorem access_render : SignatureText.access h.render = shownAccess h.access := by
  rw [render_eq, SignatureText.access_line h.flags_mem hp.body]

/-- A field shows the word static where it is static. -/
theorem static_render : contains h.render "static" = h.isStatic := by
  rw [render_eq, SignatureText.contains_flag h.flags_mem hp.body (by decide)]
  simp [flags]

/-- A field shows the word final where it is final. -/
theorem final_render : contains h.render "final" = h.isFinal := by
  rw [render_eq, SignatureText.contains_flag h.flags_mem hp.body (by decide)]
  simp [flags]

/-- The type is read off the signature of a field. -/
theorem fieldType_render : SignatureText.fieldType h.render = h.fieldType := by
  rw [render_eq]
  exact SignatureText.fieldType_line h.flags_mem hp.fieldType.toIsWord hp.name.toIsWord

/-- The explainer tells two fields apart by their access modifiers and types and whether they are
static or final. -/
theorem explain_render (α : Type) [ScoreNumber α] {other : FieldHeader} (ho : other.Plain) :
    explain α (some .field) (some h.render) (some other.render) = remarksOf
      [(h.access != other.access, .accessModifiers),
        (h.fieldType != other.fieldType, .fieldTypes),
        (h.isStatic != other.isStatic, .staticModifier),
        (h.isFinal != other.isFinal, .finalModifier)] := by
  rw [explain_texts]
  simp only [explainTexts, hp.access_render, ho.access_render, shownAccess_bne,
    hp.fieldType_render, ho.fieldType_render, hp.static_render, ho.static_render,
    hp.final_render, ho.final_render]

end Plain

end FieldHeader

namespace ConstructorHeader

/-- The signature of a constructor is one line of its modifier and its name with the parameters. -/
theorem render_eq (h : ConstructorHeader) :
    h.render = line h.access [] [h.name ++ parameterList h.parameters] := rfl

namespace Plain

variable {h : ConstructorHeader} (hp : h.Plain)
include hp

/-- The access modifier is read off the signature of a constructor. -/
theorem access_render : SignatureText.access h.render = shownAccess h.access := by
  rw [render_eq]
  exact SignatureText.access_line (List.forall_mem_nil _)
    (List.forall_mem_singleton.2 (hp.name.unmarked.call hp.parameters.unmarked))

/-- The parameters are read off the signature of a constructor. -/
theorem parameters_render : SignatureText.parameters h.render = parameterText h.parameters := by
  rw [render_eq]
  exact SignatureText.parameters_line (List.forall_mem_nil _) [] (List.forall_mem_nil _)
    hp.name.noParenthesis hp.parameters.noParenthesis

/-- The explainer tells two constructors apart by their access modifiers and parameters. -/
theorem explain_render (α : Type) [ScoreNumber α] {other : ConstructorHeader} (ho : other.Plain) :
    explain α (some .constructor) (some h.render) (some other.render) = remarksOf
      [(h.access != other.access, .accessModifiers),
        (parameterText h.parameters != parameterText other.parameters, .parameters)] := by
  rw [explain_texts]
  simp only [explainTexts, hp.access_render, ho.access_render, shownAccess_bne,
    hp.parameters_render, ho.parameters_render]

end Plain

end ConstructorHeader

namespace TypeHeader

/-- Whether an interface or a class is rendered as abstract; an interface never is. -/
def showsAbstract (h : TypeHeader) : Bool :=
  !h.isInterface && h.isAbstract

/-- Whether an interface or a class is rendered as final; an interface never is. -/
def showsFinal (h : TypeHeader) : Bool :=
  !h.isInterface && h.isFinal

/-- The modifiers of a class or an interface that are rendered besides its access. -/
def flags (h : TypeHeader) : List (Bool × String) :=
  [(h.showsAbstract, "abstract"), (h.showsFinal, "final"), (h.isInterface, "interface")]

/-- All other parts of the line for a class or an interface. -/
def body (h : TypeHeader) : List String :=
  [wordIf (!h.isInterface) "class",
    h.name ++ (h.typeParameters.elim "" fun ps => "<" ++ ", ".intercalate ps ++ ">"),
    listAfter "extends" h.extended, listAfter "implements" h.implemented]

/-- The words for the flags of a type are flag words. -/
theorem flags_mem (h : TypeHeader) : ∀ f ∈ h.flags, f.2 ∈ flagWords := by
  simp [flags, flagWords]

/-- The word for the kind of the type is one of two parts, of which the other is left out. -/
theorem render_eq (h : TypeHeader) : h.render = line h.access h.flags h.body := by
  obtain ⟨access, isInterface, isAbstract, isFinal, name, typeParameters, extended, implemented⟩ := h
  cases isInterface <;> cases typeParameters
  case false.none | false.some =>
    exact (joinWords_omit
      [accessWord access, wordIf isAbstract "abstract", wordIf isFinal "final"] _).symm
  case true.none | true.some =>
    exact (joinWords_omit [accessWord access, "", "", "interface"] _).symm

namespace Plain

variable {h : TypeHeader} (hp : h.Plain)
include hp

/-- Behind the modifiers of a plain type stands no modifier word. -/
theorem body : ∀ s ∈ h.body, Unmarked s := by
  have hclass : Unmarked (wordIf (!h.isInterface) "class") := by
    cases h.isInterface <;> decide +kernel
  have hname : Unmarked
      (h.name ++ (h.typeParameters.elim "" fun ps => "<" ++ ", ".intercalate ps ++ ">")) := by
    rcases hps : h.typeParameters with _ | ps
    · rw [Option.elim_none, String.append_empty]
      exact hp.name
    · exact hp.name.enclose (by decide) (by decide)
        (Unmarked.intercalate (hp.typeParameters ps hps))
  have hextended := Unmarked.listAfter (by decide +kernel : Unmarked "extends") hp.extended
  have himplemented :=
    Unmarked.listAfter (by decide +kernel : Unmarked "implements") hp.implemented
  simpa [TypeHeader.body] using ⟨hclass, hname, hextended, himplemented⟩

/-- The access modifier is read off the signature of a type. -/
theorem access_render : SignatureText.access h.render = shownAccess h.access := by
  rw [render_eq, SignatureText.access_line h.flags_mem hp.body]

/-- A type shows the word abstract where its header has it, be it among the modifiers or not. -/
theorem abstract_render : contains h.render "abstract" = h.showsAbstract := by
  rw [render_eq, SignatureText.contains_flag h.flags_mem hp.body (by decide)]
  simp [flags]

/-- A type shows the word final where its header has it. -/
theorem final_render : contains h.render "final" = h.showsFinal := by
  rw [render_eq, SignatureText.contains_flag h.flags_mem hp.body (by decide)]
  simp [flags]

/-- A type shows the word interface where it is one. -/
theorem interface_render : contains h.render "interface" = h.isInterface := by
  rw [render_eq, SignatureText.contains_flag h.flags_mem hp.body (by decide)]
  simp [flags]

/-- The explainer tells two types apart by their access modifiers, by two of their flags and by
whether they are interfaces. -/
theorem explain_render (α : Type) [ScoreNumber α] {other : TypeHeader} (ho : other.Plain) :
    explain α (some .type) (some h.render) (some other.render) = remarksOf
      [(h.access != other.access, .accessModifiers),
        (h.showsAbstract != other.showsAbstract, .abstractModifier),
        (h.showsFinal != other.showsFinal, .finalModifier),
        (h.isInterface != other.isInterface, .classOrInterface)] := by
  rw [explain_texts]
  simp only [explainTexts, hp.access_render, ho.access_render, shownAccess_bne,
    hp.abstract_render, ho.abstract_render, hp.final_render, ho.final_render,
    hp.interface_render, ho.interface_render]

end Plain

end TypeHeader

/-! ## All kinds -/

/-- What is said of two rendered signatures is what their headers differ in: the access, the return
type, the parameters and whether it is static for methods; the access, the type, and whether it is
static or final for fields; the access and the parameters for constructors; the access, whether it
is rendered as abstract or final, and whether it is an interface for classes and interfaces. -/
theorem explain_rendered (α : Type) [ScoreNumber α] :
    (∀ a b : MethodHeader, a.Plain → b.Plain →
      explain α (some .method) (some a.render) (some b.render) = remarksOf
        [(a.access != b.access, .accessModifiers),
          (a.returnType != b.returnType, .returnTypes),
          (parameterText a.parameters != parameterText b.parameters, .parameters),
          (a.isStatic != b.isStatic, .staticModifier)]) ∧
    (∀ a b : FieldHeader, a.Plain → b.Plain →
      explain α (some .field) (some a.render) (some b.render) = remarksOf
        [(a.access != b.access, .accessModifiers),
          (a.fieldType != b.fieldType, .fieldTypes),
          (a.isStatic != b.isStatic, .staticModifier),
          (a.isFinal != b.isFinal, .finalModifier)]) ∧
    (∀ a b : ConstructorHeader, a.Plain → b.Plain →
      explain α (some .constructor) (some a.render) (some b.render) = remarksOf
        [(a.access != b.access, .accessModifiers),
          (parameterText a.parameters != parameterText b.parameters, .parameters)]) ∧
    ∀ a b : TypeHeader, a.Plain → b.Plain →
      explain α (some .type) (some a.render) (some b.render) = remarksOf
        [(a.access != b.access, .accessModifiers),
          (a.showsAbstract != b.showsAbstract, .abstractModifier),
          (a.showsFinal != b.showsFinal, .finalModifier),
          (a.isInterface != b.isInterface, .classOrInterface)] :=
  ⟨fun _ _ ha hb => ha.explain_render α hb, fun _ _ ha hb => ha.explain_render α hb,
    fun _ _ ha hb => ha.explain_render α hb, fun _ _ ha hb => ha.explain_render α hb⟩

/-- Two headers of each kind. That the second method is final and that the second interface would be
abstract is not seen; that a method is called otherwise is not looked at. -/
theorem explain_rendered_shapes :
    let area : MethodHeader :=
      ⟨some .pub, true, false, false, "int", "area", ["int width", "int height"]⟩
    let areaOf : MethodHeader := ⟨none, false, false, true, "int", "areaOf", ["Shape shape"]⟩
    let size : FieldHeader := ⟨some .priv, false, true, "int", "size"⟩
    let sizes : FieldHeader := ⟨some .priv, false, false, "int[]", "sizes"⟩
    let square : ConstructorHeader := ⟨some .prot, "Square", ["int side"]⟩
    let point : ConstructorHeader := ⟨some .prot, "Square", []⟩
    let shape : TypeHeader := ⟨some .pub, false, true, false, "Shape", some ["T"], [], ["Area"]⟩
    let shapes : TypeHeader := ⟨some .pub, true, true, false, "Shape", none, ["Area"], []⟩
    area.render = "public static int area(int width, int height)" ∧
      areaOf.render = "final int areaOf(Shape shape)" ∧
      explain Rat (some .method) (some area.render) (some areaOf.render) =
        [.accessModifiers, .parameters, .staticModifier] ∧
      explain Rat (some .field) (some size.render) (some sizes.render) =
        [.fieldTypes, .finalModifier] ∧
      explain Rat (some .constructor) (some square.render) (some point.render) = [.parameters] ∧
      explain Rat (some .type) (some shape.render) (some shapes.render) =
        [.abstractModifier, .classOrInterface] := by
  intro area areaOf size sizes square point shape shapes
  obtain ⟨hmethod, hfield, hconstructor, htype⟩ := explain_rendered Rat
  refine ⟨by decide +kernel, by decide +kernel, ?_, ?_, ?_, ?_⟩
  · exact hmethod area areaOf
      ⟨by decide +kernel, by decide +kernel, by decide +kernel⟩
      ⟨by decide +kernel, by decide +kernel, by decide +kernel⟩
  · exact hfield size sizes
      ⟨by decide +kernel, by decide +kernel⟩ ⟨by decide +kernel, by decide +kernel⟩
  · exact hconstructor square point
      ⟨by decide +kernel, by decide +kernel⟩ ⟨by decide +kernel, by decide +kernel⟩
  · exact htype shape shapes
      ⟨by decide +kernel, by decide +kernel, by decide +kernel, by decide +kernel⟩
      ⟨by decide +kernel, by decide +kernel, by decide +kernel, by decide +kernel⟩

end StructureGrader
