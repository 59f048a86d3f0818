import Windmill.Sql.Lexer

/-!
# The DuckDB connection settings of an object store

DuckDB scripts reach the workspace object store through a settings script that
`format_duckdb_connection_settings` writes (`windmill-object-store/src/lib.rs`): for S3,
`duckdb_connection_settings_internal` pushes one `SET` or `INSTALL` statement a line, and for
Azure one `CREATE SECRET` statement carries a connection string.  The resource's values are put
between apostrophes as they are, with no escaping.

The settings text is read with the SQL lexer of `Windmill.Sql.Lexer` (DuckDB's literals, like
PostgreSQL's standard ones, double an apostrophe to escape it).  A value holding an apostrophe
ends its literal early, so a region can add statements of its own; an account name holding `;`
adds fields to the connection string, which always carries its protocol and endpoint suffix
besides the account name and key.  For values free of those characters the settings read as
exactly the intended statements, each value the literal it was meant to be.
-/

namespace Windmill.ObjectStore

open Windmill.Sql

/-! ## Resources and settings -/

/-- The fields of `S3Resource` the DuckDB settings read. -/
structure S3Resource where
  bucket : String
  region : String
  endpoint : String
  useSsl : Bool
  accessKey : Option String
  secretKey : Option String
  pathStyle : Option Bool
deriving DecidableEq, Repr

/-- `S3Resource::endpoint_with_region_fallback`: an empty endpoint becomes the AWS endpoint of
the region, or of the fallback region, or of `us-east-1`. -/
def S3Resource.endpointWithRegionFallback (r : S3Resource) (regionFallback : Option String) :
    String :=
  if r.endpoint.isEmpty then
    let finalRegion := if r.region.isEmpty then regionFallback.getD "us-east-1" else r.region
    "s3." ++ finalRegion ++ ".amazonaws.com"
  else r.endpoint

/-- The fields of `AzureBlobResource` the DuckDB settings read. -/
structure AzureBlobResource where
  accountName : String
  containerName : String
  accessKey : Option String
deriving DecidableEq, Repr

/-- `ObjectStoreResource`; the GCS and filesystem settings are not read. -/
inductive ObjectStoreResource where
  | s3 (r : S3Resource)
  | azure (a : AzureBlobResource)
  | gcs
  | filesystem

structure DuckdbConnectionSettingsResponse where
  connectionSettingsStr : String
  azureContainerPath : Option String
  s3Bucket : Option String
deriving DecidableEq, Repr

/-- `duckdb_connection_settings_internal`, which never fails: the pushed lines, in order. -/
def duckdbConnectionSettingsInternal (r : S3Resource) : DuckdbConnectionSettingsResponse :=
  { connectionSettingsStr :=
      "SET home_directory='./';\n" ++ "INSTALL 'httpfs';\n" ++
      (if r.pathStyle.getD true then "SET s3_url_style='path';\n" else "") ++
      ("SET s3_region='" ++ r.region ++ "';\n") ++
      ("SET s3_endpoint='" ++ r.endpointWithRegionFallback none ++ "';\n") ++
      (if !r.useSsl then "SET s3_use_ssl=0;\n" else "") ++
      (match r.accessKey with
        | some accessKeyId => "SET s3_access_key_id='" ++ accessKeyId ++ "';\n"
        | none => "") ++
      (match r.secretKey with
        | some secretAccessKey => "SET s3_secret_access_key='" ++ secretAccessKey ++ "';\n"
        | none => "")
    azureContainerPath := none
    s3Bucket := some r.bucket }

/-- The Azure secret statement of `format_duckdb_connection_settings`. -/
def azureSecretStatement (a : AzureBlobResource) : String :=
  "CREATE SECRET az_secret (TYPE AZURE, CONNECTION_STRING 'DefaultEndpointsProtocol=https;AccountName=" ++
    a.accountName ++ ";AccountKey=" ++ a.accessKey.getD "" ++ ";EndpointSuffix=core.windows.net');"

/-- `format_duckdb_connection_settings`; its errors are `BadRequest` messages. -/
def formatDuckdbConnectionSettings :
    ObjectStoreResource → Except String DuckdbConnectionSettingsResponse
  | .s3 r => .ok (duckdbConnectionSettingsInternal r)
  | .azure a =>
    .ok { connectionSettingsStr := azureSecretStatement a
          azureContainerPath := some ("az://" ++ a.containerName)
          s3Bucket := none }
  | .gcs => .error "GCS is not supported in DuckDB"
  | .filesystem => .error "Filesystem is not supported in DuckDB"

/-! ## The intended reading -/

/-- The statements the settings are meant to consist of. -/
inductive Statement where
  /-- `SET name='value';` -/
  | set (name value : String)
  /-- `SET name=value;` with the value written out unquoted. -/
  | setPlain (name value : String)
  /-- `INSTALL 'extension';` -/
  | install (extension : String)

/-- The tokens of a statement and its newline. -/
def Statement.toks : Statement → List Tok
  | .set name value => plainToks ("SET " ++ name ++ "=") ++ .lit value :: plainToks ";\n"
  | .setPlain name value => plainToks ("SET " ++ name ++ "=" ++ value ++ ";\n")
  | .install extension => plainToks "INSTALL " ++ .lit extension :: plainToks ";\n"

/-- The S3 settings as meant, one statement a pushed line: every value set to a literal
denoting it. -/
def s3Statements (r : S3Resource) : List Statement :=
  [.set "home_directory" "./"] ++ [.install "httpfs"] ++
    (if r.pathStyle.getD true then [.set "s3_url_style" "path"] else []) ++
    [.set "s3_region" r.region] ++ [.set "s3_endpoint" (r.endpointWithRegionFallback none)] ++
    (if !r.useSsl then [.setPlain "s3_use_ssl" "0"] else []) ++
    (r.accessKey.map (.set "s3_access_key_id")).toList ++
    (r.secretKey.map (.set "s3_secret_access_key")).toList

/-- The connection string the Azure secret is meant to carry. -/
def azureConnectionString (a : AzureBlobResource) : String :=
  "DefaultEndpointsProtocol=https;AccountName=" ++ a.accountName ++ ";AccountKey=" ++
    a.accessKey.getD "" ++ ";EndpointSuffix=core.windows.net"

/-- The tokens of the Azure secret statement carrying the connection string `cs`. -/
def azureSecretToks (cs : String) : List Tok :=
  plainToks "CREATE SECRET az_secret (TYPE AZURE, CONNECTION_STRING " ++ .lit cs :: plainToks ");"

/-- A connection-string field: the text before its first `=`, and the text after it. -/
def field (segment : List Char) : String × String :=
  (⟨segment.takeWhile (· != '=')⟩, ⟨(segment.dropWhile (· != '=')).drop 1⟩)

/-- The fields of a connection string: its `;`-separated segments, each split at its first `=`. -/
def connectionFields (cs : String) : List (String × String) :=
  (splitChars ';' cs.data).map field

/-! ## Values that break out of their literal -/

/-- A region that closes its literal adds a statement: the settings read as `s3_region` set to
`a` followed by an `INSTALL` the resource chose.  The Azure connection string carries the
protocol and endpoint suffix besides the account name and key, and an account name with `;`
adds a field of its own. -/
theorem duckdbSettings_values_escape_literals :
    lex (duckdbConnectionSettingsInternal
        ⟨"b", "a';\nINSTALL 'evil", "minio:9000", true, none, none, some false⟩).connectionSettingsStr =
      some ([.set "home_directory" "./", .install "httpfs", .set "s3_region" "a", .install "evil",
        .set "s3_endpoint" "minio:9000"].flatMap Statement.toks) ∧
    connectionFields (azureConnectionString ⟨"acc;AccountKey=forged", "c", some "key"⟩) =
      [("DefaultEndpointsProtocol", "https"), ("AccountName", "acc"), ("AccountKey", "forged"),
        ("AccountKey", "key"), ("EndpointSuffix", "core.windows.net")] :=
  ⟨rfl, rfl⟩

/-! ## Reading the settings -/

/-- No apostrophe: the value cannot end a literal. -/
def NoQuote (s : String) : Prop := '\'' ∉ s.data

instance : DecidablePred NoQuote := fun s => inferInstanceAs (Decidable ('\'' ∉ s.data))

/-- `s` reads as the tokens `toks`, whatever text follows it. -/
def Lexes (s : String) (toks : List Tok) : Prop :=
  ∀ ts rest, lexFrom ts (s.data ++ rest) = lexFrom (ts ++ toks) rest

namespace Lexes

variable {a b : String} {ta tb : List Tok}

theorem append (ha : Lexes a ta) (hb : Lexes b tb) : Lexes (a ++ b) (ta ++ tb) := by
  intro ts rest
  rw [String.data_append, List.append_assoc, ha, hb, List.append_assoc]

theorem empty : Lexes "" [] := by
  intro ts rest
  simp

theorem plain (plain : NoQuote a) : Lexes a (plainToks a) :=
  fun ts rest => lexFrom_plain ts a.data rest plain

theorem ite (c : Bool) (ha : Lexes a ta) : Lexes (if c then a else "") (if c then ta else []) := by
  cases c
  · exact empty
  · exact ha

theorem lex_eq (ha : Lexes a ta) : lex a = some ta := by
  simpa [lex, lexFrom_nil] using ha [] []

end Lexes

theorem quote_of_noQuote {v : String} (plain : NoQuote v) : quote v = "'" ++ v ++ "'" :=
  String.ext (by simp [quote, esc_data, replaceChars_of_not_mem plain])

/-- `t'v'u`, a value between the apostrophes of a template with none of its own, reads as the
template's characters around one literal denoting `v`. -/
theorem lexes_quoted {t u v : String} (plainT : NoQuote t) (plainU : NoQuote u)
    (plainV : NoQuote v) (nonempty : u ≠ "") :
    Lexes (t ++ "'" ++ v ++ "'" ++ u) (plainToks t ++ .lit v :: plainToks u) := by
  intro ts rest
  have next : (u.data ++ rest).head? ≠ some '\'' := by
    obtain ⟨_ | ⟨c, cs⟩⟩ := u
    · exact absurd rfl nonempty
    · simpa [eq_comm] using fun h : c = '\'' => plainU (h ▸ List.mem_cons_self c cs)
  have text : (t ++ "'" ++ v ++ "'" ++ u).data ++ rest = t.data ++ ((quote v).data ++ (u.data ++ rest)) := by
    simp [quote_of_noQuote plainV]
  rw [text, lexFrom_plain _ _ _ plainT, lexFrom_quote _ _ _ next, lexFrom_plain _ _ _ plainU]
  simp [plainToks]

/-- `s` reads as the statements `stmts`. -/
def ReadsAs (s : String) (stmts : List Statement) : Prop := Lexes s (stmts.flatMap Statement.toks)

namespace ReadsAs

variable {a b : String} {xs ys : List Statement}

theorem append (ha : ReadsAs a xs) (hb : ReadsAs b ys) : ReadsAs (a ++ b) (xs ++ ys) := by
  unfold ReadsAs
  rw [List.flatMap_append]
  exact Lexes.append ha hb

/-- A line `pre ++ v ++ "';\n"` whose template is `SET name='` reads as `SET name='v';`. -/
theorem set (pre name : String) {v : String} (spelled : pre = "SET " ++ name ++ "='")
    (plainName : NoQuote name) (plainV : NoQuote v) :
    ReadsAs (pre ++ v ++ "';\n") [.set name v] := by
  have quoted := lexes_quoted (t := "SET " ++ name ++ "=") (u := ";\n")
    (by simpa [NoQuote] using plainName) (by decide) plainV (by decide)
  intro ts rest
  have text : (pre ++ v ++ "';\n").data =
      ("SET " ++ name ++ "=" ++ "'" ++ v ++ "'" ++ ";\n").data := by
    subst spelled
    simp only [String.data_append, List.append_assoc]
    rfl
  simpa [Statement.toks, text] using quoted ts rest

theorem ite (c : Bool) (ha : ReadsAs a xs) :
    ReadsAs (if c then a else "") (if c then xs else []) := by
  cases c
  · exact Lexes.empty
  · exact ha

/-- An optional `SET name='value';` line reads as the optional statement. -/
theorem setOption (pre name : String) (spelled : pre = "SET " ++ name ++ "='")
    (plainName : NoQuote name) (o : Option String) : NoQuote (o.getD "") →
      ReadsAs (match o with | some v => pre ++ v ++ "';\n" | none => "")
        (o.map (Statement.set name)).toList := by
  cases o with
  | none => exact fun _ => Lexes.empty
  | some v => exact set pre name spelled plainName

end ReadsAs

/-- The values of an S3 resource that the settings quote have no apostrophe. -/
def S3Resource.QuoteFree (r : S3Resource) : Prop :=
  NoQuote r.region ∧ NoQuote r.endpoint ∧ NoQuote (r.accessKey.getD "") ∧
    NoQuote (r.secretKey.getD "")

instance (r : S3Resource) : Decidable r.QuoteFree := inferInstanceAs (Decidable (_ ∧ _))

theorem noQuote_endpointWithRegionFallback {r : S3Resource} (region : NoQuote r.region)
    (endpoint : NoQuote r.endpoint) : NoQuote (r.endpointWithRegionFallback none) := by
  unfold S3Resource.endpointWithRegionFallback
  split_ifs <;> simp_all [NoQuote]

/-- For apostrophe-free values the S3 settings read as the intended statements, line by line. -/
theorem readsAs_duckdbSettings {r : S3Resource} (plain : r.QuoteFree) :
    ReadsAs (duckdbConnectionSettingsInternal r).connectionSettingsStr (s3Statements r) := by
  obtain ⟨region, endpoint, accessKey, secretKey⟩ := plain
  have home : ReadsAs "SET home_directory='./';\n" [.set "home_directory" "./"] := by
    rw [show "SET home_directory='./';\n" = "SET home_directory='" ++ "./" ++ "';\n" by decide]
    exact .set _ "home_directory" rfl (by decide) (by decide)
  have install : ReadsAs "INSTALL 'httpfs';\n" [.install "httpfs"] := by
    rw [show "INSTALL 'httpfs';\n" = "INSTALL " ++ "'" ++ "httpfs" ++ "'" ++ ";\n" by decide]
    simpa [ReadsAs, Statement.toks] using
      lexes_quoted (t := "INSTALL ") (u := ";\n") (v := "httpfs") (by decide) (by decide)
        (by decide) (by decide)
  have urlStyle : ReadsAs "SET s3_url_style='path';\n" [.set "s3_url_style" "path"] := by
    rw [show "SET s3_url_style='path';\n" = "SET s3_url_style='" ++ "path" ++ "';\n" by decide]
    exact .set _ "s3_url_style" rfl (by decide) (by decide)
  have ssl : ReadsAs "SET s3_use_ssl=0;\n" [.setPlain "s3_use_ssl" "0"] := by
    simpa [ReadsAs, Statement.toks] using Lexes.plain (a := "SET s3_use_ssl=0;\n") (by decide)
  exact ((((((home.append install).append (.ite _ urlStyle)).append
    (.set _ "s3_region" rfl (by decide) region)).append
    (.set _ "s3_endpoint" rfl (by decide) (noQuote_endpointWithRegionFallback region endpoint))).append
    (.ite _ ssl)).append (.setOption _ "s3_access_key_id" rfl (by decide) _ accessKey)).append
    (.setOption _ "s3_secret_access_key" rfl (by decide) _ secretKey)

/-! ## The Azure secret -/

/-- The Azure values the connection string carries have no apostrophe and no `;`. -/
def AzureBlobResource.Plain (a : AzureBlobResource) : Prop :=
  NoQuote a.accountName ∧ ';' ∉ a.accountName.data ∧ NoQuote (a.accessKey.getD "") ∧
    ';' ∉ (a.accessKey.getD "").data

instance (a : AzureBlobResource) : Decidable a.Plain := inferInstanceAs (Decidable (_ ∧ _))

theorem azureSecretStatement_eq (a : AzureBlobResource) :
    azureSecretStatement a = "CREATE SECRET az_secret (TYPE AZURE, CONNECTION_STRING " ++ "'" ++
      azureConnectionString a ++ "'" ++ ");" := by
  apply String.ext
  simp only [azureSecretStatement, azureConnectionString, String.data_append, List.append_assoc]
  rfl

/-- The secret statement reads as one literal carrying the connection string. -/
theorem lex_azureSecretStatement {a : AzureBlobResource} (plain : a.Plain) :
    lex (azureSecretStatement a) = some (azureSecretToks (azureConnectionString a)) := by
  obtain ⟨name, -, key, -⟩ := plain
  have connection : NoQuote (azureConnectionString a) := by
    simp only [NoQuote, azureConnectionString, String.data_append, List.mem_append, not_or]
    exact ⟨⟨⟨⟨by decide, name⟩, by decide⟩, key⟩, by decide⟩
  rw [azureSecretStatement_eq]
  exact (lexes_quoted (by decide) (by decide) connection (by decide)).lex_eq

/-- A segment `key=value` with no `=` in the key is the field `(key, value)`. -/
theorem field_key_value {k : List Char} (v : List Char) (absent : '=' ∉ k) :
    field (k ++ '=' :: v) = (⟨k⟩, ⟨v⟩) := by
  have key : ∀ c ∈ k, (c != '=') = true := fun c mem => by
    simpa using fun h : c = '=' => absent (h ▸ mem)
  simp [field, List.takeWhile_append_of_pos key, List.dropWhile_append_of_pos key]

/-- The connection string has exactly its four fields when the account name and key hold no
`;`. -/
theorem connectionFields_azureConnectionString {a : AzureBlobResource}
    (name : ';' ∉ a.accountName.data) (key : ';' ∉ (a.accessKey.getD "").data) :
    connectionFields (azureConnectionString a) =
      [("DefaultEndpointsProtocol", "https"), ("AccountName", a.accountName),
        ("AccountKey", a.accessKey.getD ""), ("EndpointSuffix", "core.windows.net")] := by
  have segments : (azureConnectionString a).data =
      "DefaultEndpointsProtocol=https".data ++ ';' ::
        (("AccountName".data ++ '=' :: a.accountName.data) ++ ';' ::
          (("AccountKey".data ++ '=' :: (a.accessKey.getD "").data) ++ ';' ::
            "EndpointSuffix=core.windows.net".data)) := by
    simp only [azureConnectionString, String.data_append, List.append_assoc]
    rfl
  rw [connectionFields, segments, splitChars_sep _ (by decide), splitChars_sep _ (by simpa using name),
    splitChars_sep _ (by simpa using key), splitChars_of_not_mem (by decide)]
  simp only [List.map_cons, List.map_nil, field_key_value _ (by decide : '=' ∉ "AccountName".data),
    field_key_value _ (by decide : '=' ∉ "AccountKey".data)]
  rfl

/-! ## The settings read as intended -/

/-- For values free of apostrophes (and, in the Azure account name and key, of `;`), the
settings read as intended: the S3 script is exactly the intended statements, each value the
literal denoting it, and the Azure settings are one `CREATE SECRET` statement whose connection
string literal has the protocol, account-name, account-key and endpoint-suffix fields and no
other. -/
theorem duckdbSettings_read_as_intended (r : S3Resource) (a : AzureBlobResource)
    (s3Plain : r.QuoteFree) (azurePlain : a.Plain) :
    lex (duckdbConnectionSettingsInternal r).connectionSettingsStr =
        some ((s3Statements r).flatMap Statement.toks) ∧
      ∃ resp, formatDuckdbConnectionSettings (.azure a) = .ok resp ∧
        lex resp.connectionSettingsStr = some (azureSecretToks (azureConnectionString a)) ∧
        connectionFields (azureConnectionString a) =
          [("DefaultEndpointsProtocol", "https"), ("AccountName", a.accountName),
            ("AccountKey", a.accessKey.getD ""), ("EndpointSuffix", "core.windows.net")] :=
  ⟨(readsAs_duckdbSettings s3Plain).lex_eq, _, rfl, lex_azureSecretStatement azurePlain,
    connectionFields_azureConnectionString azurePlain.2.1 azurePlain.2.2.2⟩

theorem duckdbSettings_read_as_intended_minio :
    S3Resource.QuoteFree ⟨"b", "eu-west-1", "minio:9000", false, some "id", some "secret", none⟩ ∧
      AzureBlobResource.Plain ⟨"acc", "c", some "a2V5=="⟩ ∧
      lex (duckdbConnectionSettingsInternal
          ⟨"b", "eu-west-1", "minio:9000", false, some "id", some "secret", none⟩).connectionSettingsStr =
        some ((s3Statements
          ⟨"b", "eu-west-1", "minio:9000", false, some "id", some "secret", none⟩).flatMap
            Statement.toks) ∧
      ∃ resp, formatDuckdbConnectionSettings (.azure ⟨"acc", "c", some "a2V5=="⟩) = .ok resp ∧
        lex resp.connectionSettingsStr =
          some (azureSecretToks (azureConnectionString ⟨"acc", "c", some "a2V5=="⟩)) ∧
        connectionFields (azureConnectionString ⟨"acc", "c", some "a2V5=="⟩) =
          [("DefaultEndpointsProtocol", "https"), ("AccountName", "acc"),
            ("AccountKey", "a2V5=="), ("EndpointSuffix", "core.windows.net")] :=
  ⟨by decide, by decide,
    duckdbSettings_read_as_intended ⟨"b", "eu-west-1", "minio:9000", false, some "id", some "secret", none⟩
      ⟨"acc", "c", some "a2V5=="⟩ (by decide) (by decide)⟩

end Windmill.ObjectStore
