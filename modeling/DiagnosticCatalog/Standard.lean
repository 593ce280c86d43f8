import DiagnosticCatalog.Declaration
/-!
The declarations compiled in. Codes are never used again: an issue that is renumbered leaves its old
code among the retired ones. The order of the table is the order of listings.
-/

namespace DiagnosticCatalog

/-- A declaration with a level. -/
def leveled (code : Int) (identifier : String) (s : Severity) (c : Category)
    (rule? : Option String) : Declaration :=
  ⟨code, identifier, .explicit s, c, none, rule?, none⟩

/-- A declaration whose parent decides. -/
def inheriting (code : Int) (identifier : String) (c : Category) (parent : String) : Declaration :=
  ⟨code, identifier, .inherit, c, some parent, none, none⟩

/-- Differences between two versions of an interface. -/
def comparisonDeclarations : List Declaration := [
  leveled 1 "PARSE_ERROR" .error .unknown none,
  leveled 2 "ADDED_PACKAGE" .warning .compatibility none,
  leveled 3 "ADDED_CLASS" .warning .compatibility none,
  leveled 4 "ADDED_METHOD" .warning .compatibility none,
  leveled 5 "ADDED_FIELD" .warning .compatibility none,
  leveled 6 "ADDED_INTERFACE" .warning .compatibility none,
  leveled 7 "REMOVED_PACKAGE" .warning .compatibility none,
  leveled 8 "REMOVED_CLASS" .warning .compatibility none,
  leveled 9 "REMOVED_METHOD" .warning .compatibility none,
  leveled 10 "REMOVED_FIELD" .warning .compatibility none,
  leveled 11 "REMOVED_INTERFACE" .warning .compatibility none,
  leveled 12 "CHANGED_STATIC" .warning .compatibility none,
  leveled 13 "ADDED_FINAL" .warning .compatibility none,
  leveled 14 "CHANGED_TRANSIENT" .warning .compatibility none,
  leveled 15 "CHANGED_VOLATILE" .warning .compatibility none,
  leveled 16 "CHANGED_TYPE" .warning .compatibility none,
  leveled 17 "CHANGED_VALUE" .warning .compatibility none,
  leveled 18 "CHANGED_SUPERCLASS" .warning .compatibility none,
  leveled 19 "CHANGED_SCOPE" .warning .compatibility none,
  leveled 20 "CHANGED_ABSTRACT" .warning .compatibility none,
  leveled 21 "CHANGED_THROWS" .warning .compatibility none,
  leveled 22 "CHANGED_NATIVE" .hidden .compatibility none,
  leveled 23 "CHANGED_CLASS" .warning .compatibility none,
  leveled 24 "CHANGED_DEPRECATED" .warning .compatibility none,
  leveled 25 "CHANGED_SYNCHRONIZED" .warning .compatibility none,
  leveled 26 "ADDED_FINAL_UNINSTANTIABLE" .warning .compatibility none,
  leveled 27 "REMOVED_FINAL" .warning .compatibility none,
  inheriting 28 "REMOVED_DEPRECATED_CLASS" .compatibility "REMOVED_CLASS",
  inheriting 29 "REMOVED_DEPRECATED_METHOD" .compatibility "REMOVED_METHOD",
  inheriting 30 "REMOVED_DEPRECATED_FIELD" .compatibility "REMOVED_FIELD",
  inheriting 31 "ADDED_ABSTRACT_METHOD" .compatibility "ADDED_METHOD",
  leveled 32 "ADDED_REIFIED" .warning .compatibility none]

/-- Faults of documentation and of its generation. -/
def documentationDeclarations : List Declaration := [
  leveled 101 "UNRESOLVED_LINK" .lint .documentation none,
  leveled 102 "BAD_INCLUDE_TAG" .lint .documentation none,
  leveled 103 "UNKNOWN_TAG" .lint .documentation none,
  leveled 104 "UNKNOWN_PARAM_TAG_NAME" .lint .documentation none,
  leveled 105 "UNDOCUMENTED_PARAMETER" .hidden .documentation none,
  leveled 106 "BAD_ATTR_TAG" .lint .documentation none,
  leveled 107 "BAD_INHERITDOC" .hidden .documentation none,
  leveled 108 "HIDDEN_LINK" .lint .documentation none,
  leveled 109 "HIDDEN_CONSTRUCTOR" .warning .documentation none,
  leveled 110 "UNAVAILABLE_SYMBOL" .warning .documentation none,
  leveled 111 "HIDDEN_SUPERCLASS" .warning .documentation none,
  leveled 112 "DEPRECATED" .hidden .documentation none,
  leveled 113 "DEPRECATION_MISMATCH" .error .documentation none,
  leveled 114 "MISSING_COMMENT" .lint .documentation none,
  leveled 115 "IO_ERROR" .error .unknown none,
  leveled 116 "NO_SINCE_DATA" .hidden .documentation none,
  leveled 117 "NO_FEDERATION_DATA" .warning .documentation none,
  leveled 118 "BROKEN_SINCE_FILE" .error .documentation none,
  leveled 119 "INVALID_CONTENT_TYPE" .error .documentation none,
  leveled 120 "INVALID_SAMPLE_INDEX" .error .documentation none,
  leveled 121 "HIDDEN_TYPE_PARAMETER" .warning .documentation none,
  leveled 122 "PRIVATE_SUPERCLASS" .warning .documentation none,
  leveled 123 "NULLABLE" .hidden .documentation none,
  leveled 124 "INT_DEF" .hidden .documentation none,
  leveled 125 "REQUIRES_PERMISSION" .lint .documentation none,
  leveled 126 "BROADCAST_BEHAVIOR" .lint .documentation none,
  leveled 127 "SDK_CONSTANT" .lint .documentation none,
  leveled 128 "TODO" .lint .documentation none,
  leveled 129 "NO_ARTIFACT_DATA" .hidden .documentation none,
  leveled 130 "BROKEN_ARTIFACT_FILE" .error .documentation none]

/-- Checks beyond documentation. -/
def extendedDeclarations : List Declaration := [
  leveled 131 "TYPO" .warning .documentation none,
  leveled 132 "MISSING_PERMISSION" .lint .documentation none,
  leveled 133 "MULTIPLE_THREAD_ANNOTATIONS" .lint .documentation none,
  leveled 134 "UNRESOLVED_CLASS" .lint .documentation none,
  leveled 135 "INVALID_NULL_CONVERSION" .error .compatibility none,
  leveled 136 "PARAMETER_NAME_CHANGE" .error .compatibility none,
  leveled 137 "OPERATOR_REMOVAL" .error .compatibility none,
  leveled 138 "INFIX_REMOVAL" .error .compatibility none,
  leveled 139 "VARARG_REMOVAL" .error .compatibility none,
  leveled 140 "ADD_SEALED" .error .compatibility none,
  leveled 146 "ANNOTATION_EXTRACTION" .error .unknown none,
  leveled 147 "SUPERFLUOUS_PREFIX" .warning .unknown none,
  leveled 148 "HIDDEN_TYPEDEF_CONSTANT" .error .unknown none,
  leveled 149 "EXPECTED_PLATFORM_TYPE" .hidden .unknown none,
  leveled 150 "INTERNAL_ERROR" .error .unknown none,
  leveled 151 "RETURNING_UNEXPECTED_CONSTANT" .warning .unknown none,
  leveled 152 "DEPRECATED_OPTION" .warning .unknown none,
  leveled 153 "BOTH_PACKAGE_INFO_AND_HTML" .warning .documentation none,
  leveled 154 "REFERENCES_DEPRECATED" .hidden .unknown none,
  leveled 155 "UNHIDDEN_SYSTEM_API" .error .unknown none,
  leveled 156 "SHOWING_MEMBER_IN_HIDDEN_CLASS" .error .unknown none,
  leveled 157 "INVALID_NULLABILITY_ANNOTATION" .error .unknown none,
  leveled 158 "REFERENCES_HIDDEN" .error .unknown none,
  leveled 159 "IGNORING_SYMLINK" .info .unknown none,
  leveled 160 "INVALID_NULLABILITY_ANNOTATION_WARNING" .warning .unknown none,
  leveled 161 "EXTENDS_DEPRECATED" .hidden .unknown none,
  leveled 162 "FORBIDDEN_TAG" .error .unknown none,
  leveled 163 "MISSING_COLUMN" .warning .documentation none,
  leveled 164 "INVALID_SYNTAX" .error .unknown none]

/-- Departures from the style guide. -/
def lintDeclarations : List Declaration := [
  leveled 300 "START_WITH_LOWER" .error .apiLint (some "S1"),
  leveled 301 "START_WITH_UPPER" .error .apiLint (some "S1"),
  leveled 302 "ALL_UPPER" .error .apiLint (some "C2"),
  leveled 303 "ACRONYM_NAME" .warning .apiLint (some "S1"),
  leveled 304 "ENUM" .error .apiLint (some "F5"),
  leveled 305 "ENDS_WITH_IMPL" .error .apiLint none,
  leveled 306 "MIN_MAX_CONSTANT" .warning .apiLint (some "C8"),
  leveled 307 "COMPILE_TIME_CONSTANT" .error .apiLint none,
  leveled 308 "SINGULAR_CALLBACK" .error .apiLint (some "L1"),
  leveled 309 "CALLBACK_NAME" .warning .apiLint (some "L1"),
  leveled 310 "CALLBACK_INTERFACE" .error .apiLint (some "CL3"),
  leveled 311 "CALLBACK_METHOD_NAME" .error .apiLint (some "L1"),
  leveled 312 "LISTENER_INTERFACE" .error .apiLint (some "L1"),
  leveled 313 "SINGLE_METHOD_INTERFACE" .error .apiLint (some "L1"),
  leveled 314 "INTENT_NAME" .error .apiLint (some "C3"),
  leveled 315 "ACTION_VALUE" .error .apiLint (some "C4"),
  leveled 316 "EQUALS_AND_HASH_CODE" .error .apiLint (some "M8"),
  leveled 317 "PARCEL_CREATOR" .error .apiLint (some "FW3"),
  leveled 318 "PARCEL_NOT_FINAL" .error .apiLint (some "FW8"),
  leveled 319 "PARCEL_CONSTRUCTOR" .error .apiLint (some "FW3"),
  leveled 320 "PROTECTED_MEMBER" .error .apiLint (some "M7"),
  leveled 321 "PAIRED_REGISTRATION" .error .apiLint (some "L2"),
  leveled 322 "REGISTRATION_NAME" .error .apiLint (some "L3"),
  leveled 323 "VISIBLY_SYNCHRONIZED" .error .apiLint (some "M5"),
  leveled 324 "INTENT_BUILDER_NAME" .warning .apiLint (some "FW1"),
  leveled 325 "CONTEXT_NAME_SUFFIX" .error .apiLint (some "C4"),
  leveled 326 "INTERFACE_CONSTANT" .error .apiLint (some "C4"),
  leveled 327 "ON_NAME_EXPECTED" .warning .apiLint none,
  leveled 328 "TOP_LEVEL_BUILDER" .warning .apiLint none,
  leveled 329 "MISSING_BUILD_METHOD" .warning .apiLint none,
  leveled 330 "BUILDER_SET_STYLE" .warning .apiLint none,
  leveled 331 "SETTER_RETURNS_THIS" .warning .apiLint (some "M4"),
  leveled 332 "RAW_AIDL" .error .apiLint none,
  leveled 333 "INTERNAL_CLASSES" .error .apiLint none,
  leveled 334 "PACKAGE_LAYERING" .warning .apiLint (some "FW6"),
  leveled 335 "GETTER_SETTER_NAMES" .error .apiLint (some "M6"),
  leveled 336 "CONCRETE_COLLECTION" .error .apiLint (some "CL2"),
  leveled 337 "OVERLAPPING_CONSTANTS" .warning .apiLint (some "C1"),
  leveled 338 "GENERIC_EXCEPTION" .error .apiLint (some "S1"),
  leveled 339 "ILLEGAL_STATE_EXCEPTION" .warning .apiLint (some "S1"),
  leveled 340 "RETHROW_REMOTE_EXCEPTION" .error .apiLint (some "FW9"),
  leveled 341 "MENTIONS_GOOGLE" .error .apiLint none,
  leveled 342 "HEAVY_BIT_SET" .error .apiLint none,
  leveled 343 "MANAGER_CONSTRUCTOR" .error .apiLint none,
  leveled 344 "MANAGER_LOOKUP" .error .apiLint none,
  leveled 345 "AUTO_BOXING" .error .apiLint (some "M11"),
  leveled 346 "STATIC_UTILS" .error .apiLint none,
  leveled 347 "CONTEXT_FIRST" .error .apiLint (some "M3"),
  leveled 348 "LISTENER_LAST" .warning .apiLint (some "M3"),
  leveled 349 "EXECUTOR_REGISTRATION" .warning .apiLint (some "L1"),
  leveled 350 "CONFIG_FIELD_NAME" .error .apiLint none,
  leveled 351 "RESOURCE_FIELD_NAME" .error .apiLint none,
  leveled 352 "RESOURCE_VALUE_FIELD_NAME" .error .apiLint (some "C7"),
  leveled 353 "RESOURCE_STYLE_FIELD_NAME" .error .apiLint (some "C7"),
  leveled 354 "STREAM_FILES" .warning .apiLint (some "M10"),
  leveled 355 "PARCELABLE_LIST" .warning .apiLint none,
  leveled 356 "ABSTRACT_INNER" .warning .apiLint none,
  leveled 358 "BANNED_THROW" .error .apiLint none,
  leveled 359 "EXTENDS_ERROR" .error .apiLint none,
  leveled 360 "EXCEPTION_NAME" .error .apiLint none,
  leveled 361 "METHOD_NAME_UNITS" .error .apiLint none,
  leveled 362 "FRACTION_FLOAT" .error .apiLint none,
  leveled 363 "PERCENTAGE_INT" .error .apiLint none,
  leveled 364 "NOT_CLOSEABLE" .warning .apiLint none,
  leveled 365 "KOTLIN_OPERATOR" .info .apiLint none,
  leveled 366 "ARRAY_RETURN" .warning .apiLint none,
  leveled 367 "USER_HANDLE" .warning .apiLint none,
  leveled 368 "USER_HANDLE_NAME" .warning .apiLint none,
  leveled 369 "SERVICE_NAME" .error .apiLint (some "C4"),
  leveled 370 "METHOD_NAME_TENSE" .warning .apiLint none,
  leveled 371 "NO_CLONE" .error .apiLint none,
  leveled 372 "USE_ICU" .warning .apiLint none,
  leveled 373 "USE_PARCEL_FILE_DESCRIPTOR" .error .apiLint (some "FW11"),
  leveled 374 "NO_BYTE_OR_SHORT" .warning .apiLint (some "FW12"),
  leveled 375 "SINGLETON_CONSTRUCTOR" .error .apiLint none,
  leveled 376 "COMMON_ARGS_FIRST" .warning .apiLint (some "M2"),
  leveled 377 "CONSISTENT_ARGUMENT_ORDER" .error .apiLint (some "M2"),
  leveled 378 "KOTLIN_KEYWORD" .error .apiLint none,
  leveled 379 "UNIQUE_KOTLIN_OPERATOR" .error .apiLint none,
  leveled 380 "SAM_SHOULD_BE_LAST" .warning .apiLint none,
  leveled 381 "MISSING_JVMSTATIC" .warning .apiLint none,
  leveled 382 "DEFAULT_VALUE_CHANGE" .error .apiLint none,
  leveled 383 "DOCUMENT_EXCEPTIONS" .error .apiLint none,
  leveled 384 "FORBIDDEN_SUPER_CLASS" .error .apiLint none,
  leveled 385 "MISSING_NULLABILITY" .error .apiLint none,
  leveled 386 "MUTABLE_BARE_FIELD" .error .apiLint (some "F2"),
  leveled 387 "INTERNAL_FIELD" .error .apiLint (some "F2"),
  leveled 388 "PUBLIC_TYPEDEF" .error .apiLint (some "FW15"),
  leveled 389 "ANDROID_URI" .error .apiLint (some "FW14")]

def standardDeclarations : List Declaration :=
  comparisonDeclarations ++ documentationDeclarations ++ extendedDeclarations ++ lintDeclarations

end DiagnosticCatalog
