import BuildLoop.Text.Search

/-!
# Templates of Node servers

Whole files with the placeholders `__TITLE__`, `__STORAGE__` and `__EXTRA__`, and the parts that stand
in for them.
-/

namespace BuildLoop.Scaffold.Template

/-- The data models of a Node server. -/
def nodeModels : String := Text.unlines [
  "'use strict';",
  "",
  "// Data models for __TITLE__.",
  "",
  "function validateName(value) \x7b",
  "    const name = String(value || '').trim();",
  "    if (!name || name.length > 200) \x7b",
  "        throw new Error('name must be 1-200 characters');",
  "    \x7d",
  "    return name;",
  "\x7d",
  "",
  "function toItem(row) \x7b",
  "    return \x7b id: row.id, name: row.name, created_at: row.created_at \x7d;",
  "\x7d",
  "",
  "module.exports = \x7b validateName, toItem \x7d;"]

/-- The database module of a Node server. -/
def nodeDatabase : String := Text.unlines [
  "'use strict';",
  "",
  "// SQLite storage for __TITLE__.",
  "",
  "const path = require('path');",
  "const Database = require('better-sqlite3');",
  "",
  "const DB_PATH = process.env.DATABASE_PATH || path.join(__dirname, 'app.db');",
  "let db = null;",
  "",
  "function getConnection() \x7b",
  "    if (db === null) \x7b",
  "        db = new Database(DB_PATH);",
  "        db.exec('CREATE TABLE IF NOT EXISTS items (id INTEGER PRIMARY KEY AUTOINCREMENT, name TEXT NOT NULL, created_at TEXT NOT NULL)');",
  "    \x7d",
  "    return db;",
  "\x7d",
  "",
  "function listItems() \x7b",
  "    return getConnection().prepare('SELECT id, name, created_at FROM items ORDER BY id').all();",
  "\x7d",
  "",
  "function addItem(name) \x7b",
  "    const createdAt = new Date().toISOString();",
  "    const info = getConnection()",
  "        .prepare('INSERT INTO items (name, created_at) VALUES (?, ?)')",
  "        .run(name, createdAt);",
  "    return \x7b id: Number(info.lastInsertRowid), name: name, created_at: createdAt \x7d;",
  "\x7d",
  "",
  "module.exports = \x7b initDb: getConnection, getConnection, listItems, addItem \x7d;"]

/-- An Express server. -/
def expressServer : String := Text.unlines [
  "'use strict';",
  "",
  "// __TITLE__ API server.",
  "",
  "const express = require('express');",
  "const cors = require('cors');",
  "__STORAGE__",
  "",
  "const app = express();",
  "app.use(cors());",
  "app.use(express.json());",
  "",
  "app.get('/api/health', function (req, res) \x7b",
  "    res.json(\x7b status: 'ok' \x7d);",
  "\x7d);",
  "",
  "app.get('/api/items', function (req, res) \x7b",
  "    res.json(listItems());",
  "\x7d);",
  "",
  "app.post('/api/items', function (req, res) \x7b",
  "    const name = String((req.body && req.body.name) || '').trim();",
  "    if (!name) \x7b",
  "        res.status(400).json(\x7b error: 'name is required' \x7d);",
  "        return;",
  "    \x7d",
  "    res.status(201).json(addItem(name));",
  "\x7d);",
  "__EXTRA__",
  "",
  "if (require.main === module) \x7b",
  "    const port = process.env.PORT || 8000;",
  "    app.listen(port, function () \x7b",
  "        console.log('Server listening on port ' + port);",
  "    \x7d);",
  "\x7d",
  "",
  "module.exports = app;"]

/-- A store in memory, for a Node server without a database. -/
def nodeStore : String := Text.unlines [
  "",
  "const items = [];",
  "",
  "function listItems() \x7b",
  "    return items.slice();",
  "\x7d",
  "",
  "function addItem(name) \x7b",
  "    const item = \x7b id: items.length + 1, name: name, created_at: new Date().toISOString() \x7d;",
  "    items.push(item);",
  "    return item;",
  "\x7d"]

/-- The accounts of an Express server. -/
def expressAccounts : String := Text.unlines [
  "",
  "const crypto = require('crypto');",
  "const users = new Map();",
  "",
  "function hashPassword(password) \x7b",
  "    return crypto.createHash('sha256').update(String(password)).digest('hex');",
  "\x7d",
  "",
  "app.post('/api/register', function (req, res) \x7b",
  "    const username = String((req.body && req.body.username) || '').trim();",
  "    const password = String((req.body && req.body.password) || '');",
  "    if (!username || !password) \x7b",
  "        res.status(400).json(\x7b error: 'username and password are required' \x7d);",
  "        return;",
  "    \x7d",
  "    if (users.has(username)) \x7b",
  "        res.status(409).json(\x7b error: 'username already exists' \x7d);",
  "        return;",
  "    \x7d",
  "    users.set(username, hashPassword(password));",
  "    res.status(201).json(\x7b username: username \x7d);",
  "\x7d);",
  "",
  "app.post('/api/login', function (req, res) \x7b",
  "    const username = String((req.body && req.body.username) || '').trim();",
  "    const password = String((req.body && req.body.password) || '');",
  "    if (users.get(username) !== hashPassword(password)) \x7b",
  "        res.status(401).json(\x7b error: 'invalid credentials' \x7d);",
  "        return;",
  "    \x7d",
  "    res.json(\x7b username: username \x7d);",
  "\x7d);"]

/-- The upload of an Express server. -/
def expressUpload : String := Text.unlines [
  "",
  "app.post('/api/upload', express.raw(\x7b type: '*/*', limit: '10mb' \x7d), function (req, res) \x7b",
  "    res.status(201).json(\x7b size: req.body ? req.body.length : 0 \x7d);",
  "\x7d);"]

end BuildLoop.Scaffold.Template
