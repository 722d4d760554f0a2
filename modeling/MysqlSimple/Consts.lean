import Mathlib.Data.UInt

/-!
# Protocol constants

`conn.rs` takes its constants from `consts.rs`, which is not among the sources. The packet size
bound and the four command codes are the spec's (§4.1, §4.4); the capability bits, the column
flag, the column types and the collation are the values of the MySQL v10 wire protocol, which
§6 says the library speaks bit-exactly. The unit test `test_handshake_packet` pins the two
capability bits the handshake parser branches on: its capability word `0x00088003` must select
both the plugin-name and the 20-byte scramble branch.
-/

namespace MysqlSimple

/-- Modelled from the spec: `MAX_PAYLOAD_LEN`, the largest physical frame, `2^24 − 1` (§4.1). -/
def maxPayloadLen : Nat := 16777215

/-! ## Commands (§4.4) -/

/-- Modelled from the spec: `COM_QUERY`. -/
def comQuery : UInt8 := 0x03
/-- Modelled from the spec: `COM_FIELD_LIST`. -/
def comFieldList : UInt8 := 0x04
/-- Modelled from the spec: `COM_STMT_PREPARE`. -/
def comStmtPrepare : UInt8 := 0x16
/-- Modelled from the spec: `COM_STMT_EXECUTE`. -/
def comStmtExecute : UInt8 := 0x17
/-- Modelled from the spec: `COM_STMT_SEND_LONG_DATA`. -/
def comStmtSendLongData : UInt8 := 0x18

/-! ## Capability flags (§3) -/

/-- Modelled from the spec: `CLIENT_LONG_PASSWORD`. -/
def clientLongPassword : UInt32 := 0x00000001
/-- Modelled from the spec: `CLIENT_LONG_FLAG`. -/
def clientLongFlag : UInt32 := 0x00000004
/-- Modelled from the spec: `CLIENT_CONNECT_WITH_DB`. -/
def clientConnectWithDb : UInt32 := 0x00000008
/-- Modelled from the spec: `CLIENT_LOCAL_FILES`. -/
def clientLocalFiles : UInt32 := 0x00000080
/-- Modelled from the spec: `CLIENT_PROTOCOL_41`. -/
def clientProtocol41 : UInt32 := 0x00000200
/-- Modelled from the spec: `CLIENT_TRANSACTIONS`. -/
def clientTransactions : UInt32 := 0x00002000
/-- Modelled from the spec: `CLIENT_SECURE_CONNECTION`. -/
def clientSecureConnection : UInt32 := 0x00008000
/-- Modelled from the spec: `CLIENT_PLUGIN_AUTH`. -/
def clientPluginAuth : UInt32 := 0x00080000

/-- Modelled from the spec: `UTF8_GENERAL_CI`, the default collation of the handshake response. -/
def utf8GeneralCi : UInt8 := 33

/-- Modelled from the spec: `UNSIGNED_FLAG` of a column definition's `flags`. -/
def unsignedFlag : UInt16 := 32

/-! ## Column types -/

/-- Modelled from the spec: `MYSQL_TYPE_TINY`. -/
def mysqlTypeTiny : UInt8 := 1
/-- Modelled from the spec: `MYSQL_TYPE_SHORT`. -/
def mysqlTypeShort : UInt8 := 2
/-- Modelled from the spec: `MYSQL_TYPE_LONG`. -/
def mysqlTypeLong : UInt8 := 3
/-- Modelled from the spec: `MYSQL_TYPE_FLOAT`. -/
def mysqlTypeFloat : UInt8 := 4
/-- Modelled from the spec: `MYSQL_TYPE_DOUBLE`. -/
def mysqlTypeDouble : UInt8 := 5
/-- Modelled from the spec: `MYSQL_TYPE_TIMESTAMP`. -/
def mysqlTypeTimestamp : UInt8 := 7
/-- Modelled from the spec: `MYSQL_TYPE_LONGLONG`. -/
def mysqlTypeLonglong : UInt8 := 8
/-- Modelled from the spec: `MYSQL_TYPE_INT24`. -/
def mysqlTypeInt24 : UInt8 := 9
/-- Modelled from the spec: `MYSQL_TYPE_DATE`. -/
def mysqlTypeDate : UInt8 := 10
/-- Modelled from the spec: `MYSQL_TYPE_TIME`. -/
def mysqlTypeTime : UInt8 := 11
/-- Modelled from the spec: `MYSQL_TYPE_DATETIME`. -/
def mysqlTypeDatetime : UInt8 := 12
/-- Modelled from the spec: `MYSQL_TYPE_YEAR`. -/
def mysqlTypeYear : UInt8 := 13
/-- Modelled from the spec: `MYSQL_TYPE_VAR_STRING`. -/
def mysqlTypeVarString : UInt8 := 253

/-- Modelled from the spec: the "string-ish" column types of §4.2, whose binary values are
length-encoded bytes: `DECIMAL`, `VARCHAR`, `BIT`, `NEWDECIMAL`, `ENUM`, `SET`, the four `BLOB`s,
`VAR_STRING`, `STRING` and `GEOMETRY`. -/
def stringTypes : List UInt8 := [0, 15, 16, 246, 247, 248, 249, 250, 251, 252, 253, 254, 255]

end MysqlSimple
