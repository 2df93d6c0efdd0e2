import AnnotationIndex.Java.Syntax.Symbols

/-!
# Names, annotations and types
-/

namespace AnnotationIndex.Java.Syntax

open Terminal Phrase

/-- A name, also one that is a word of the language elsewhere. -/
def anyName : Rule := choice [name, softName]

def dottedName : Rule := choice [name, softName, qualifiedName]

def simpleType : Rule :=
  choice [byteWord, shortWord, intWord, longWord, charWord, floatWord, doubleWord, booleanWord,
    voidWord, name, scopedType, genericType]

def nameRules : List Production :=
  binding (-3) none (rule softName [choice [openWord, moduleWord, recordWord, withWord,
    sealedWord]]) ++
  rule softName [yieldWord] ++
  rule qualifiedName [dottedName, dot, name] ++
  rule annotationUse [atSign, dottedName, opt annotationArguments] ++
  oneOrMore annotations [annotationUse] ++
  rule annotationArguments [leftParen,
    choice [elementValue, seq [], seq [elementPair, opt morePairs]], rightParen] ++
  oneOrMore morePairs [comma, elementPair] ++
  rule elementPair [anyName, assign, elementValue] ++
  binding 2 none (rule elementValue [choice [expression, elementArray, annotationUse]]) ++
  rule elementArray [leftBrace, opt (seq [elementValue, opt moreElements]), opt comma,
    rightBrace] ++
  oneOrMore moreElements [comma, elementValue] ++
  rule modifiers [modifierList] ++
  oneOrMore modifierList [choice [annotationUse, publicWord, protectedWord, privateWord,
    abstractWord, staticWord, finalWord, strictfpWord, defaultWord, synchronizedWord, nativeWord,
    transientWord, volatileWord, sealedWord, nonSealed]]

def typeRules : List Production :=
  rule anyType [choice [plainType, annotatedType]] ++
  rule plainType [choice [simpleType, arrayType]] ++
  rule annotatedType [annotations, plainType] ++
  rule scopedType [choice [name, scopedType, genericType], dot, opt annotations, name] ++
  weighing 10 (rule genericType [choice [name, scopedType], typeArguments]) ++
  rule arrayType [plainType, dimensions] ++
  rule typeArguments [less, opt (seq [choice [anyType, wildcard], opt moreTypeArguments]),
    greater] ++
  oneOrMore moreTypeArguments [comma, choice [anyType, wildcard]] ++
  rule wildcard [opt annotations, question,
    opt (choice [seq [extendsWord, anyType], seq [superWord, anyType]])] ++
  binding 0 (some .right) (rule dimensions [dimensionList]) ++
  oneOrMore dimensionList [opt annotations, leftBracket, rightBracket] ++
  rule typeParameters [less, typeParameter, opt moreTypeParameters, greater] ++
  oneOrMore moreTypeParameters [comma, typeParameter] ++
  rule typeParameter [opt annotations, name, opt typeBound] ++
  rule typeBound [extendsWord, anyType, opt moreBounds] ++
  oneOrMore moreBounds [amp, anyType] ++
  rule typeList [anyType, opt moreTypes] ++
  oneOrMore moreTypes [comma, anyType]

end AnnotationIndex.Java.Syntax
