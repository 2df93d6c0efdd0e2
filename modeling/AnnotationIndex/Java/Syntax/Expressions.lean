import AnnotationIndex.Java.Syntax.Types

/-!
# Expressions

Operators bind by their strength. A class literal is preferred to the access of a field, and a type
with arguments to a comparison, where both can be read.
-/

namespace AnnotationIndex.Java.Syntax

open Terminal Phrase

def binaryOperators : List (Terminal × Int) :=
  [(greater, 10), (less, 10), (greaterEqual, 10), (lessEqual, 10), (equal, 9), (notEqual, 9),
    (andAnd, 5), (orOr, 4), (plus, 12), (minus, 12), (star, 13), (slash, 13), (amp, 8), (bar, 6),
    (caret, 7), (percent, 13), (shiftLeft, 11), (shiftRight, 11), (shiftUnsigned, 11)]

def operatorRules : List Production :=
  binding 14 none (rule cast [leftParen, choice [seq [anyType, rightParen, expression],
    seq [anyType, opt moreBounds, rightParen, choice [primary, lambda]]]]) ++
  binding 1 (some .right) (rule assignment [choice [name, softName, fieldAccess, arrayAccess],
    choice [assign, addAssign, subAssign, mulAssign, divAssign, andAssign, orAssign, xorAssign,
      modAssign, leftAssign, rightAssign, unsignedAssign], expression]) ++
  binaryOperators.flatMap (fun (operator, strength) =>
    binding strength (some .left) (rule binary [expression, operator, expression])) ++
  -- After the type of a test `when` is never the name of a variable.
  binding 10 none (rule typeTest [expression, instanceofWord, opt finalWord,
    choice [seq [anyType, opt anyName], recordPattern, seq [anyType, whenWord, impossible]]]) ++
  rule lambda [choice [name, formalParameters, lambdaNames, softName], arrow,
    choice [expression, block]] ++
  rule lambdaNames [leftParen, anyName, opt moreNames, rightParen] ++
  oneOrMore moreNames [comma, anyName] ++
  binding 3 (some .right) (rule conditional [expression, question, expression, colon,
    expression]) ++
  binding 15 (some .left) (rule unary [choice [plus, minus, bang, tilde], expression]) ++
  binding 15 (some .left) (rule update [choice [seq [expression, increment],
    seq [expression, decrement], seq [increment, expression], seq [decrement, expression]]])

def expressionRules : List Production :=
  rule literal [choice [integer, real, hexReal, trueWord, falseWord, character, stringLiteral,
    nullWord]] ++
  rule stringLiteral [choice [string, seq [templateHead, expression, opt templateRest,
    templateTail]]] ++
  oneOrMore templateRest [templateMiddle, expression] ++
  rule expression [choice [assignment, binary, typeTest, lambda, conditional, update, primary,
    unary, cast, switchExpression]] ++
  rule primary [choice [literal, classLiteral, thisWord, name, softName, parenthesized,
    objectCreation, fieldAccess, arrayAccess, methodCall, methodReference, arrayCreation,
    template]] ++
  binding 0 (some .right) (rule arrayCreation [newWord, opt annotations, simpleType,
    choice [seq [sizedDimensions, opt dimensions], seq [dimensions, arrayInitializer]]]) ++
  oneOrMore sizedDimensions [sizedDimension] ++
  rule sizedDimension [opt annotations, leftBracket, expression, rightBracket] ++
  rule parenthesized [leftParen, expression, rightParen] ++
  weighing 17 (rule classLiteral [plainType, dot, classWord]) ++
  rule objectCreation [opt (seq [primary, dot]), plainCreation] ++
  binding 0 (some .right) (rule plainCreation [newWord,
    choice [seq [opt annotations, typeArguments, opt annotations], opt annotations], simpleType,
    arguments, opt classBody]) ++
  rule fieldAccess [choice [primary, superWord], opt (seq [dot, superWord]), dot,
    choice [name, softName, thisWord]] ++
  rule template [primary, dot, stringLiteral] ++
  rule arrayAccess [primary, leftBracket, expression, rightBracket] ++
  rule methodCall [choice [anyName, seq [choice [primary, superWord], dot,
    opt (seq [superWord, dot]), opt typeArguments, anyName]], arguments] ++
  rule arguments [leftParen, opt (seq [expression, opt moreExpressions]), rightParen] ++
  oneOrMore moreExpressions [comma, expression] ++
  rule methodReference [choice [anyType, primary, superWord], doubleColon, opt typeArguments,
    choice [newWord, name]]

def switchRules : List Production :=
  rule switchExpression [switchWord, parenthesized, switchBlock] ++
  rule switchBlock [leftBrace, opt (choice [switchGroups, Phrase.switchRules]), rightBrace] ++
  oneOrMore switchGroups [switchGroup] ++
  oneOrMore Phrase.switchRules [switchRule] ++
  binding 0 (some .left) (rule switchGroup [labels, opt statements]) ++
  oneOrMore labels [switchLabel, colon] ++
  rule switchRule [switchLabel, arrow, choice [expressionStatement, throwStatement, block]] ++
  rule switchLabel [choice [seq [caseWord,
    choice [pattern, seq [expression, opt moreExpressions]], opt guardClause], defaultWord]] ++
  rule pattern [choice [typePattern, recordPattern]] ++
  rule typePattern [plainType, anyName] ++
  rule recordPattern [choice [name, softName, genericType], recordPatternBody] ++
  rule recordPatternBody [leftParen,
    opt (seq [choice [recordPatternPart, recordPattern], opt moreRecordPatternParts]),
    rightParen] ++
  oneOrMore moreRecordPatternParts [comma, choice [recordPatternPart, recordPattern]] ++
  rule recordPatternPart [choice [underscore, seq [plainType, anyName]]] ++
  rule guardClause [whenWord, expression]

end AnnotationIndex.Java.Syntax
