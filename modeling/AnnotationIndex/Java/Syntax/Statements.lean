import AnnotationIndex.Java.Syntax.Expressions

/-!
# Statements

Declarations count as statements and may stand anywhere among them.
-/

namespace AnnotationIndex.Java.Syntax

open Terminal Phrase

def statementRules : List Production :=
  rule statement [choice [declaration, expressionStatement, labeledStatement, ifStatement,
    whileStatement, forStatement, forEachStatement, block, semicolon, assertStatement,
    doStatement, breakStatement, continueStatement, returnStatement, yieldStatement,
    switchExpression, synchronizedStatement, localVariables, throwStatement, tryStatement,
    tryResources]] ++
  oneOrMore statements [statement] ++
  rule block [leftBrace, opt statements, rightBrace] ++
  rule expressionStatement [expression, semicolon] ++
  rule labeledStatement [name, colon, statement] ++
  rule localVariables [opt modifiers, plainType, declarators, semicolon] ++
  rule assertStatement [assertWord, expression, opt (seq [colon, expression]), semicolon] ++
  rule breakStatement [breakWord, opt name, semicolon] ++
  rule continueStatement [continueWord, opt name, semicolon] ++
  rule returnStatement [returnWord, opt expression, semicolon] ++
  rule yieldStatement [yieldWord, expression, semicolon] ++
  rule throwStatement [throwWord, expression, semicolon] ++
  rule synchronizedStatement [synchronizedWord, parenthesized, block]

def controlRules : List Production :=
  binding 0 (some .right) (rule ifStatement [ifWord, parenthesized, statement,
    opt (seq [elseWord, statement])]) ++
  rule whileStatement [whileWord, parenthesized, statement] ++
  rule doStatement [doWord, statement, whileWord, parenthesized, semicolon] ++
  rule forStatement [forWord, leftParen,
    choice [localVariables, seq [opt (seq [expression, opt moreExpressions]), semicolon]],
    opt expression, semicolon, opt (seq [expression, opt moreExpressions]), rightParen,
    statement] ++
  rule forEachStatement [forWord, leftParen, opt modifiers, plainType, declaratorName, colon,
    expression, rightParen, statement] ++
  -- After the type of a loop variable `when` is never its name.
  rule forEachStatement [forWord, leftParen, expression, whenWord, impossible] ++
  rule tryStatement [tryWord, block,
    choice [catchClauses, seq [opt catchClauses, finallyClause]]] ++
  oneOrMore catchClauses [catchClause] ++
  rule catchClause [catchWord, leftParen, catchParameter, rightParen, block] ++
  rule catchParameter [opt modifiers, catchType, declaratorName] ++
  rule catchType [plainType, opt moreCatchTypes] ++
  oneOrMore moreCatchTypes [bar, plainType] ++
  rule finallyClause [finallyWord, block] ++
  rule tryResources [tryWord, resources, block, opt catchClauses, opt finallyClause] ++
  rule resources [leftParen, resource, opt moreResources, opt semicolon, rightParen] ++
  oneOrMore moreResources [semicolon, resource] ++
  rule resource [choice [seq [opt modifiers, plainType, declaratorName, assign, expression],
    name, fieldAccess]]

end AnnotationIndex.Java.Syntax
