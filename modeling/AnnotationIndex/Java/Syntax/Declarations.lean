import AnnotationIndex.Java.Syntax.Statements

/-!
# Declarations
-/

namespace AnnotationIndex.Java.Syntax

open Terminal Phrase

def moduleRules : List Production :=
  rule moduleDeclaration [opt annotations, opt openWord, moduleWord, dottedName, moduleBody] ++
  rule moduleBody [leftBrace, opt moduleDirectives, rightBrace] ++
  oneOrMore moduleDirectives [moduleDirective] ++
  rule moduleDirective [choice [
    seq [requiresWord, opt requiresModifiers, dottedName],
    seq [choice [exportsWord, opensWord], dottedName,
      opt (seq [toWord, dottedName, opt moreQualifiedNames])],
    seq [usesWord, dottedName],
    seq [providesWord, dottedName, withWord, dottedName, opt moreQualifiedNames]], semicolon] ++
  oneOrMore requiresModifiers [requiresModifier] ++
  rule requiresModifier [choice [transitiveWord, staticWord]] ++
  oneOrMore moreQualifiedNames [comma, dottedName] ++
  rule packageDeclaration [opt annotations, packageWord, dottedName, semicolon] ++
  rule importDeclaration [importWord, opt staticWord, dottedName, opt (seq [dot, star]),
    semicolon]

def member : Rule :=
  choice [fieldDeclaration, recordDeclaration, methodDeclaration, compactConstructor,
    classDeclaration, interfaceDeclaration, annotationTypeDeclaration, enumDeclaration, block,
    staticInitializer, constructorDeclaration, semicolon]

def declarationRules : List Production :=
  binding 2 none (rule declaration [choice [moduleDeclaration, packageDeclaration,
    importDeclaration, classDeclaration, recordDeclaration, interfaceDeclaration,
    annotationTypeDeclaration, enumDeclaration]]) ++
  rule classDeclaration [opt modifiers, classWord, name, opt typeParameters, opt superclass,
    opt superInterfaces, opt permits, classBody] ++
  rule superclass [extendsWord, anyType] ++
  rule superInterfaces [implementsWord, typeList] ++
  rule permits [permitsWord, typeList] ++
  rule classBody [leftBrace, opt members, rightBrace] ++
  oneOrMore members [member] ++
  rule recordDeclaration [opt modifiers, recordWord, name, opt typeParameters, formalParameters,
    opt superInterfaces, classBody] ++
  rule enumDeclaration [opt modifiers, enumWord, name, opt superInterfaces, enumBody] ++
  rule enumBody [leftBrace, opt (seq [enumConstant, opt moreEnumConstants]), opt comma,
    opt enumMembers, rightBrace] ++
  oneOrMore moreEnumConstants [comma, enumConstant] ++
  rule enumConstant [opt modifiers, name, opt arguments, opt classBody] ++
  rule enumMembers [semicolon, opt members] ++
  rule interfaceDeclaration [opt modifiers, interfaceWord, name, opt typeParameters,
    opt extendsInterfaces, opt permits, interfaceBody] ++
  rule extendsInterfaces [extendsWord, typeList] ++
  rule interfaceBody [leftBrace, opt interfaceMembers, rightBrace] ++
  oneOrMore interfaceMembers [choice [constantDeclaration, enumDeclaration, methodDeclaration,
    classDeclaration, interfaceDeclaration, recordDeclaration, annotationTypeDeclaration,
    semicolon]] ++
  rule annotationTypeDeclaration [opt modifiers, atInterface, name, annotationTypeBody] ++
  rule annotationTypeBody [leftBrace, opt annotationTypeMembers, rightBrace] ++
  oneOrMore annotationTypeMembers [choice [annotationElement, constantDeclaration,
    classDeclaration, interfaceDeclaration, enumDeclaration, annotationTypeDeclaration,
    semicolon]] ++
  rule annotationElement [opt modifiers, plainType, anyName, leftParen, rightParen,
    opt dimensions, opt defaultValue, semicolon] ++
  rule defaultValue [defaultWord, elementValue]

def memberRules : List Production :=
  rule fieldDeclaration [opt modifiers, plainType, declarators, semicolon] ++
  rule constantDeclaration [opt modifiers, plainType, declarators, semicolon] ++
  rule declarators [declarator, opt moreDeclarators] ++
  oneOrMore moreDeclarators [comma, declarator] ++
  rule declarator [declaratorName, opt (seq [assign, choice [expression, arrayInitializer]])] ++
  rule declaratorName [choice [name, softName, underscore], opt dimensions] ++
  rule arrayInitializer [leftBrace,
    opt (seq [choice [expression, arrayInitializer], opt moreInitializers]), opt comma,
    rightBrace] ++
  oneOrMore moreInitializers [comma, choice [expression, arrayInitializer]] ++
  rule staticInitializer [staticWord, block] ++
  rule methodDeclaration [opt modifiers, methodHeader, choice [block, semicolon]] ++
  rule methodHeader [opt (seq [typeParameters, opt annotations]), plainType, methodDeclarator,
    opt throwsClause] ++
  rule methodDeclarator [anyName, formalParameters, opt dimensions] ++
  rule throwsClause [throwsWord, anyType, opt moreTypes] ++
  rule formalParameters [leftParen, choice [receiver, seq [opt (seq [receiver, comma]),
    opt (seq [choice [formalParameter, spreadParameter], opt moreParameters])]], rightParen] ++
  oneOrMore moreParameters [comma, choice [formalParameter, spreadParameter]] ++
  rule formalParameter [opt modifiers, plainType, declaratorName] ++
  rule receiver [opt annotations, plainType, opt outerNames, thisWord] ++
  oneOrMore outerNames [name, dot] ++
  rule spreadParameter [opt modifiers, plainType, ellipsis, opt annotations, declarator] ++
  rule constructorDeclaration [opt modifiers, constructorDeclarator, opt throwsClause,
    constructorBody] ++
  rule constructorDeclarator [opt typeParameters, name, formalParameters] ++
  rule constructorBody [leftBrace, opt constructorCall, opt statements, rightBrace] ++
  rule constructorCall [choice [seq [opt typeArguments, choice [thisWord, superWord]],
    seq [primary, dot, opt typeArguments, superWord]], arguments, semicolon] ++
  rule compactConstructor [opt modifiers, name, block]

end AnnotationIndex.Java.Syntax
